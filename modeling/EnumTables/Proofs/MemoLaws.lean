import EnumTables.Proofs.KnownConstants

/-!
# What holds of every memo

The memo is only ever added to.  Between two evaluations nothing is in progress; at any time, also in the
middle of an evaluation, each value belongs to a constant, lies in the range of its type, and stands in front
of the values of all constants which that refers to.

* `Growing` — an evaluation which only adds values to the memo.
* `Scope.Tidy` — an evaluation after which no constant has two entries.
* `Scope.Coherent` — the invariant of a memo.
* `Scope.Reached.coherent` — it holds of every memo of an evaluation.
* `Scope.Called` — the evaluation of one constant, as a step between memos.
* `memo_kept` — what holds after any number of these steps.
-/

namespace EnumTables.Constants

open EnumTables.Token Relation

variable {scope : Scope} {memo after later : Memo} {key : Key} {keys : List Key} {span : Span} {v : Int}

/-! ## Values are only added -/

/-- **An evaluation only adds values**, in front of those which were there. -/
def Growing (x : Eval Int) : Prop :=
  ∀ memo v after, x.run memo = .ok (v, after) → memo.values <:+ after.values

lemma composed_growing : Composed fun _ x _ => Growing x where
  value v memo w after h := by
    obtain ⟨-, rfl⟩ := run_pure_eq_ok.mp h
    exact List.suffix_refl _
  failure _ fault span _ memo v after h := (run_failAt_eq_ok.mp h).elim
  sequence hx hf memo v after h := by
    obtain ⟨a, between, ha, hb⟩ := run_bind_eq_ok.mp h
    exact (hx memo a between ha).trans (hf a between v after hb)

lemma growing_evaluateWith (depth : Nat) (key : Key) (span : Span) :
    Growing (scope.evaluateWith depth key span) := by
  induction depth generalizing key span with
  | zero => exact fun memo v after h => (run_failAt_eq_ok.mp h).elim
  | succ depth ih =>
      intro memo v after h
      rw [evaluateWith_succ] at h
      rcases run_constant_eq_ok.mp h with ⟨-, rfl⟩ | ⟨-, -, candidate, inside, -, hrun, rfl⟩
      · exact List.suffix_refl _
      · have hinside : Growing (scope.initializer (scope.evaluateWith depth) candidate) :=
          composed_growing.initializer_self fun other _ span => ih other span
        exact (hinside (memo.enter key) v inside hrun).trans (List.suffix_cons _ _)

/-! ## No constant has two entries -/

/-- No constant has two entries. -/
def Memo.Once (memo : Memo) : Prop := (memo.values.map Prod.fst).Nodup

lemma Memo.Once.leave (h : memo.Once) (hunknown : ¬ memo.Knows key) : (memo.leave key v).Once := by
  refine List.nodup_cons.mpr ⟨fun hin => hunknown ?_, h⟩
  obtain ⟨entry, hentry, rfl⟩ := List.mem_map.mp hin
  rcases hlookup : memo.values.lookup entry.1 with _ | w
  · have hne := List.lookup_eq_none_iff.mp hlookup entry hentry
    simp at hne
  · exact ⟨w, hlookup⟩

/-- **No constant has two entries after an evaluation**, if none had before. -/
def Scope.Tidy (scope : Scope) (keys : List Key) (x : Eval Int) : Prop :=
  scope.Advancing keys x ∧
    ∀ memo v after, scope.Closed memo → memo.Once → x.run memo = .ok (v, after) → after.Once

lemma composed_tidy : Composed fun keys x _ => scope.Tidy keys x where
  value v := ⟨composed_advancing.value v, fun memo w after _ ho h => (run_pure_eq_ok.mp h).2 ▸ ho⟩
  failure keys fault span hf := by
    refine ⟨composed_advancing.failure keys fault span hf, fun memo v after _ _ h => ?_⟩
    exact (run_failAt_eq_ok.mp h).elim
  sequence {_ _ x _ f _} hx hf := by
    have hadvancing := composed_advancing.sequence (y := x) (g := f) hx.1 fun a => (hf a).1
    refine ⟨hadvancing, fun memo v after hm ho h => ?_⟩
    obtain ⟨a, between, ha, hb⟩ := run_bind_eq_ok.mp h
    exact (hf a).2 between v after (hx.1 memo a between hm ha).closed (hx.2 memo a between hm ho ha) hb

lemma tidy_evaluateWith (depth : Nat) (key : Key) (span : Span) :
    scope.Tidy [key] (scope.evaluateWith depth key span) := by
  induction depth generalizing key span with
  | zero => exact ⟨advances_evaluateWith 0 key span, fun memo v after _ _ h => (run_failAt_eq_ok.mp h).elim⟩
  | succ depth ih =>
      refine ⟨advances_evaluateWith (depth + 1) key span, fun memo v after hm ho h => ?_⟩
      rw [evaluateWith_succ] at h
      rcases run_constant_eq_ok.mp h with
        ⟨-, rfl⟩ | ⟨hunknown, -, candidate, inside, -, hrun, rfl⟩
      · exact ho
      · have hinside : scope.Tidy (candidate.references scope.type)
            (scope.initializer (scope.evaluateWith depth) candidate) :=
          composed_tidy.initializer_self fun other _ span => ih other span
        have hwaits : ¬ inside.Knows key := by
          -- while it is in progress, the constant itself does not come to be known
          refine (hinside.1 (memo.enter key) v inside hm hrun).waits key (List.mem_cons_self ..) ?_
          rintro ⟨w, hw⟩
          exact absurd (hunknown.symm.trans hw) nofun
        exact (hinside.2 (memo.enter key) v inside hm ho hrun).leave hwaits

/-! ## The invariant -/

/-- **The invariant of a memo**: what is known are constants, with values in the range of their types, each
with one entry, and with all constants which they refer to. -/
structure Scope.Coherent (scope : Scope) (memo : Memo) : Prop where
  declared : ∀ key, memo.Knows key → ∃ candidate, scope.candidates.find? key = some candidate
  /-- Also where the constant is another name for one whose range was looked at. -/
  group_inRange : ∀ key v, memo.values.lookup key = some v → scope.isGroup key = true →
    scope.repr.holds v = true
  scalar_inRange : ∀ key v type, memo.values.lookup key = some v →
    scope.candidates.kind? key = some (.scalar type) → type.holds v = true
  /-- What is known refers to what is known. -/
  closed : ∀ key other, memo.Knows key → scope.Refers key other → memo.Knows other
  once : (memo.values.map Prod.fst).Nodup

lemma KeyMeans.holds_of_scalar {type : Number.Primitive} (h : KeyMeans scope key v)
    (hk : scope.candidates.kind? key = some (.scalar type)) : type.holds v = true := by
  cases h with
  | group hf _ => simp [Candidates.kind?, hf] at hk
  | scalar hf _ hv =>
      simp only [Candidates.kind?, hf, Option.map_some, Option.some.injEq, Kind.scalar.injEq] at hk
      exact hk ▸ hv

lemma Scope.Settled.coherent (h : scope.Settled memo) (ho : memo.Once) : scope.Coherent memo where
  declared key := fun ⟨v, hv⟩ => (h.sound key v hv).declared
  group_inRange key v hv hg := (h.sound key v hv).holds_of_isGroup hg
  scalar_inRange key v _ hv hk := (h.sound key v hv).holds_of_scalar hk
  closed := h.closed
  once := ho

lemma Scope.Reached.once (h : scope.Reached memo) : memo.Once := by
  induction h with
  | start => exact List.nodup_nil
  | enter key _ ih => exact ih
  | evaluated hr hrun ih => exact (tidy_evaluateWith _ _ _).2 _ _ _ hr.settled.closed ih hrun

/-- **The invariant holds of every memo**, whatever was evaluated before and whatever is in progress. -/
theorem Scope.Reached.coherent (h : scope.Reached memo) : scope.Coherent memo :=
  h.settled.coherent h.once

/-! ## Evaluations one after the other -/

/-- **The evaluation of a constant**, as a step from one memo to the next. -/
def Scope.Called (scope : Scope) (memo after : Memo) : Prop :=
  ∃ key span v, (scope.evaluate key span).run memo = .ok (v, after)

lemma reached_of_called (h : ReflTransGen scope.Called .empty memo) : scope.Reached memo := by
  induction h with
  | refl => exact .start
  | tail _ hstep ih =>
      obtain ⟨key, span, v, hrun⟩ := hstep
      exact ih.evaluated hrun

lemma visiting_of_called (h : ReflTransGen scope.Called memo later) : later.visiting = memo.visiting := by
  induction h with
  | refl => rfl
  | tail _ hstep ih =>
      obtain ⟨key, span, v, hrun⟩ := hstep
      exact (visiting_evaluateWith hrun).trans ih

lemma suffix_of_called (h : ReflTransGen scope.Called memo later) : memo.values <:+ later.values := by
  induction h with
  | refl => exact List.suffix_refl _
  | tail _ hstep ih =>
      obtain ⟨key, span, v, hrun⟩ := hstep
      exact ih.trans (growing_evaluateWith _ key span _ v _ hrun)

lemma later_of_called (hm : scope.Settled memo) (h : ReflTransGen scope.Called memo later) :
    scope.Later memo later := by
  induction h with
  | refl => exact hm.later_self
  | tail _ hstep ih =>
      obtain ⟨key, span, v, hrun⟩ := hstep
      exact ih.evaluated hrun

/-- What is known is not evaluated again. -/
lemma run_evaluate_of_known (h : memo.values.lookup key = some v) :
    (scope.evaluate key span).run memo = .ok (v, memo) := by
  rw [evaluate_eq_constant]
  exact run_constant_of_known h

/-- **What holds of memos.**  An evaluation which succeeds, at whatever depth inside others, leaves in progress
what was in progress when it began, and only adds to what is known; every memo on the way is coherent.  Between
evaluations one after the other, nothing is in progress; no value which is known ever gets lost or becomes
another one, and to evaluate its constant again gives this value and changes nothing. -/
theorem memo_kept (scope : Scope) :
    (∀ depth key span memo v after, (scope.evaluateWith depth key span).run memo = .ok (v, after) →
      after.visiting = memo.visiting ∧ memo.values <:+ after.values) ∧
    (∀ memo, scope.Reached memo → scope.Coherent memo) ∧
    ∀ memo, ReflTransGen scope.Called .empty memo →
      memo.visiting = [] ∧ scope.Coherent memo ∧
      (∀ later, ReflTransGen scope.Called memo later → memo.values <:+ later.values ∧
        ∀ key v, memo.values.lookup key = some v → later.values.lookup key = some v) ∧
      ∀ key v, memo.values.lookup key = some v →
        ∀ span, (scope.evaluate key span).run memo = .ok (v, memo) := by
  refine ⟨fun depth key span memo v after hrun => ?_, fun memo hm => hm.coherent, fun memo hm => ?_⟩
  · exact ⟨visiting_evaluateWith hrun, growing_evaluateWith depth key span memo v after hrun⟩
  · have hreached := reached_of_called hm
    refine ⟨visiting_of_called hm, hreached.coherent, fun later hlater => ?_, fun key v hv span => ?_⟩
    · have hkept := (later_of_called hreached.settled hlater).advances.kept
      exact ⟨suffix_of_called hlater, hkept⟩
    · exact run_evaluate_of_known hv

/-- A scope in which a constant of the type is another name for one which is made of an integer. -/
def chained : Scope :=
  ⟨"A", .i8, [(.free "B", ⟨.group, .path (.ofName "C") .nowhere⟩),
    (.free "C", ⟨.group, .call (.path (.ofName "A") .nowhere) (.path (.ofName "D") .nowhere) .nowhere⟩),
    (.free "D", ⟨.scalar .u8, .integer ⟨127, "u8"⟩ .nowhere .nowhere⟩)]⟩

/-- All three are known once the first was evaluated, and the second is not evaluated again. -/
theorem memo_kept_chained :
    ∃ memo, ReflTransGen chained.Called .empty memo ∧ memo.visiting = [] ∧ chained.Coherent memo ∧
      memo.values.map Prod.fst = [.free "B", .free "C", .free "D"] ∧
      (chained.evaluate (.free "C") .nowhere).run memo = .ok (127, memo) := by
  have hcalled : ReflTransGen chained.Called .empty
      ⟨[(.free "B", 127), (.free "C", 127), (.free "D", 127)], []⟩ :=
    .single ⟨.free "B", .nowhere, 127, by rfl⟩
  obtain ⟨hvisiting, hcoherent, -, hagain⟩ := (memo_kept chained).2.2 _ hcalled
  exact ⟨_, hcalled, hvisiting, hcoherent, rfl, hagain (.free "C") 127 (by decide) .nowhere⟩

end EnumTables.Constants
