import EnumTables.Proofs.Termination

/-!
# What is known while constants are evaluated

A memo knows the constants it has values for.  It comes to know a constant only behind all constants which
that refers to; so whatever can be reached from what is known is known, and what is in progress stays
unknown until its own evaluation ends.

* `Scope.Advances` — what a run does to the memo if it succeeds.
* `advances_evaluateWith` — it knows the constant afterwards, forgets nothing and ends nothing else.
* `Scope.Settled` — the invariant of a memo: its values are right, and nothing behind them is unknown.
* `evaluate_iff_clear` — a constant is evaluated exactly if it has a value and leads to no constant in
  progress which is not known.
-/

namespace EnumTables.Constants

open EnumTables.Token Relation

variable {scope : Scope} {memo between after : Memo} {key other : Key} {keys more : List Key} {span : Span}
  {v : Int}

/-! ## Known constants -/

/-- A memo has a value for a constant. -/
def Memo.Knows (memo : Memo) (key : Key) : Prop := ∃ v, memo.values.lookup key = some v

/-- **What is known refers to what is known.** -/
def Scope.Closed (scope : Scope) (memo : Memo) : Prop :=
  ∀ key other, memo.Knows key → scope.Refers key other → memo.Knows other

/-- Hence whatever can be reached from what is known is known. -/
lemma Scope.Closed.reaches (h : scope.Closed memo) (hk : memo.Knows key)
    (hr : ReflTransGen scope.Refers key other) : memo.Knows other := by
  induction hr with
  | refl => exact hk
  | tail _ hstep ih => exact h _ _ ih hstep

lemma Memo.lookup_leave_self (memo : Memo) (key : Key) (v : Int) :
    (memo.leave key v).values.lookup key = some v := by
  rw [Memo.leave, List.lookup_cons, beq_self_eq_true]

lemma Memo.lookup_leave_of_ne (memo : Memo) (v : Int) (h : other ≠ key) :
    (memo.leave key v).values.lookup other = memo.values.lookup other := by
  rw [Memo.leave, List.lookup_cons, beq_false_of_ne h]

/-! ## What a run does to the memo -/

/-- **What a run does to the memo** if it succeeds: it finds constants, and nothing which was known gets
lost, or is another value than it was. -/
structure Scope.Advances (scope : Scope) (keys : List Key) (memo after : Memo) : Prop where
  visiting : after.visiting = memo.visiting
  kept : ∀ key v, memo.values.lookup key = some v → after.values.lookup key = some v
  found : ∀ key ∈ keys, after.Knows key
  /-- What is in progress and unknown stays so. -/
  waits : ∀ key ∈ memo.visiting, ¬ memo.Knows key → ¬ after.Knows key
  closed : scope.Closed after

namespace Scope.Advances

lemma refl (h : scope.Closed memo) : scope.Advances [] memo memo :=
  ⟨rfl, fun _ _ hk => hk, by simp, fun _ _ hk => hk, h⟩

lemma knows (h : scope.Advances keys memo after) (hk : memo.Knows key) : after.Knows key :=
  hk.imp fun v hv => h.kept key v hv

lemma trans (h : scope.Advances keys memo between) (h' : scope.Advances more between after) :
    scope.Advances (keys ++ more) memo after where
  visiting := h'.visiting.trans h.visiting
  kept key v hv := h'.kept key v (h.kept key v hv)
  found key hkey := by
    rcases List.mem_append.mp hkey with hkey | hkey
    · exact h'.knows (h.found key hkey)
    · exact h'.found key hkey
  waits key hkey hk := h'.waits key (h.visiting ▸ hkey) (h.waits key hkey hk)
  closed := h'.closed

lemma fewer (h : scope.Advances keys memo after) (hsub : more ⊆ keys) : scope.Advances more memo after :=
  { h with found := fun key hkey => h.found key (hsub hkey) }

/-- **A constant comes to be known** behind the constants which its initializer refers to. -/
lemma leave {candidate : Candidate} {inside : Memo}
    (h : scope.Advances (candidate.references scope.type) (memo.enter key) inside)
    (hf : scope.candidates.find? key = some candidate) (hunknown : memo.values.lookup key = none)
    (hnew : key ∉ memo.visiting) : scope.Advances [key] memo (inside.leave key v) := by
  have hknows : ∀ other, inside.Knows other → (inside.leave key v).Knows other := by
    rintro other ⟨w, hw⟩
    by_cases hsame : other = key
    · subst hsame
      exact ⟨v, inside.lookup_leave_self other v⟩
    · exact ⟨w, (inside.lookup_leave_of_ne v hsame).trans hw⟩
  refine ⟨?_, fun other w hw => ?_, fun other hother => ?_, fun other hother hk => ?_, ?_⟩
  · -- the constant was put in front of those in progress, and is the one which is taken out
    simp only [Memo.leave, h.visiting, Memo.enter, List.erase_cons_head]
  · have hne : other ≠ key := by
      rintro rfl
      simp [hunknown] at hw
    exact (inside.lookup_leave_of_ne v hne).trans (h.kept other w hw)
  · obtain rfl := List.mem_singleton.mp hother
    exact ⟨v, inside.lookup_leave_self other v⟩
  · rintro ⟨w, hw⟩
    have hne : other ≠ key := fun hsame => hnew (hsame ▸ hother)
    rw [inside.lookup_leave_of_ne v hne] at hw
    exact h.waits other (List.mem_cons_of_mem _ hother) hk ⟨w, hw⟩
  · intro first second hfirst hrefers
    by_cases hsame : first = key
    · obtain ⟨candidate', hf', hreference⟩ := hsame ▸ hrefers
      obtain rfl := Option.some.inj (hf.symm.trans hf')
      exact hknows second (h.found second hreference)
    · obtain ⟨w, hw⟩ := hfirst
      rw [inside.lookup_leave_of_ne v hsame] at hw
      exact hknows second (h.closed first second ⟨w, hw⟩ hrefers)

end Scope.Advances

/-- A run which succeeds finds the constants which it refers to. -/
def Scope.Advancing (scope : Scope) (keys : List Key) (x : Eval Int) : Prop :=
  ∀ memo v after, scope.Closed memo → x.run memo = .ok (v, after) → scope.Advances keys memo after

lemma composed_advancing : Composed fun keys x _ => scope.Advancing keys x where
  value v memo w after hm h := by
    obtain ⟨-, rfl⟩ := run_pure_eq_ok.mp h
    exact .refl hm
  failure keys fault span _ memo v after _ h := (run_failAt_eq_ok.mp h).elim
  sequence hx hf memo v after hm h := by
    obtain ⟨a, between, ha, hb⟩ := run_bind_eq_ok.mp h
    have hfirst := hx memo a between hm ha
    exact hfirst.trans (hf a between v after hfirst.closed hb)

/-- **An evaluation finds its constant**, and forgets nothing. -/
theorem advances_evaluateWith (depth : Nat) (key : Key) (span : Span) :
    scope.Advancing [key] (scope.evaluateWith depth key span) := by
  induction depth generalizing key span with
  | zero => exact fun memo v after _ h => (run_failAt_eq_ok.mp h).elim
  | succ depth ih =>
      intro memo v after hm h
      rw [evaluateWith_succ] at h
      rcases run_constant_eq_ok.mp h with
        ⟨hknown, rfl⟩ | ⟨hunknown, hnew, candidate, inside, hf, hrun, rfl⟩
      · refine ⟨rfl, fun _ _ hk => hk, fun other hother => ?_, fun _ _ hk => hk, hm⟩
        exact List.mem_singleton.mp hother ▸ ⟨v, hknown⟩
      · have hinside : scope.Advancing (candidate.references scope.type)
            (scope.initializer (scope.evaluateWith depth) candidate) :=
          composed_advancing.initializer_self fun other _ span => ih other span
        exact (hinside (memo.enter key) v inside hm hrun).leave hf hunknown hnew

/-! ## Constants which can be evaluated -/

/-- The invariant of a memo. -/
structure Scope.Settled (scope : Scope) (memo : Memo) : Prop where
  sound : scope.Sound memo
  closed : scope.Closed memo

lemma Scope.Settled.evaluated {depth : Nat} (hm : scope.Settled memo)
    (h : (scope.evaluateWith depth key span).run memo = .ok (v, after)) : scope.Settled after where
  sound := (evaluateWith_truthful depth hm.sound h).2.1
  closed := (advances_evaluateWith depth key span memo v after hm.closed h).closed

/-- **Memos behind a memo**, as runs leave them which succeed. -/
structure Scope.Later (scope : Scope) (memo after : Memo) : Prop where
  settled : scope.Settled after
  advances : scope.Advances [] memo after

lemma Scope.Settled.later_self (hm : scope.Settled memo) : scope.Later memo memo := ⟨hm, .refl hm.closed⟩

lemma Scope.Later.evaluated {depth : Nat} (h : scope.Later memo between)
    (hrun : (scope.evaluateWith depth key span).run between = .ok (v, after)) : scope.Later memo after := by
  have hnext := advances_evaluateWith depth key span between v after h.settled.closed hrun
  exact ⟨h.settled.evaluated hrun, (h.advances.trans hnext).fewer (List.nil_subset _)⟩

/-- **Memos are settled**, whatever was evaluated before and whatever is in progress. -/
theorem Scope.Reached.settled (h : scope.Reached memo) : scope.Settled memo := by
  induction h with
  | start =>
      refine ⟨sound_empty, ?_⟩
      rintro key other ⟨v, hv⟩
      simp [Memo.empty] at hv
  | enter key _ ih => exact ⟨ih.sound.enter key, ih.closed⟩
  | evaluated _ hrun ih => exact ih.evaluated hrun

/-- A constant leads to none which is in progress and unknown. -/
def Scope.Clear (scope : Scope) (memo : Memo) (key : Key) : Prop :=
  ∀ other ∈ memo.visiting, ¬ memo.Knows other → ¬ ReflTransGen scope.Refers key other

/-- What was clear stays clear when more is known. -/
lemma Scope.Clear.advance (h : scope.Clear memo key) (ha : scope.Advances keys memo after) :
    scope.Clear after key :=
  fun other hother hk => h other (ha.visiting ▸ hother) fun hknown => hk (ha.knows hknown)

/-- What a constant refers to is clear while that is in progress, unless it leads back. -/
lemma Scope.Clear.inside (h : scope.Clear memo key) (hacyclic : ¬ TransGen scope.Refers key key)
    (hr : scope.Refers key other) : scope.Clear (memo.enter key) other := by
  intro earlier hearlier hk hreach
  rcases List.mem_cons.mp hearlier with rfl | hearlier
  · exact hacyclic (.head' hr hreach)
  · exact h earlier hearlier hk (hreach.head hr)

/-- What was evaluated was clear: all which can be reached from it is known afterwards. -/
lemma clear_of_run (hm : scope.Closed memo)
    (h : (scope.evaluate key span).run memo = .ok (v, after)) : scope.Clear memo key := by
  intro other hother hunknown hreach
  have hadvances := advances_evaluateWith scope.depth key span memo v after hm h
  exact hadvances.waits other hother hunknown
    (hadvances.closed.reaches (hadvances.found key (List.mem_singleton_self key)) hreach)

/-- **What has a value and is clear is evaluated**, by induction on what it refers to. -/
theorem exists_run_of_clear (hm : scope.Settled memo) (hmeans : KeyMeans scope key v)
    (hclear : scope.Clear memo key) : ∃ after, (scope.evaluate key span).run memo = .ok (v, after) := by
  have hacc := hmeans.acc
  induction hacc generalizing v memo span with
  | intro key _ ih =>
      rw [evaluate_eq_constant]
      rcases hknown : memo.values.lookup key with _ | known
      · have hunknown : ¬ memo.Knows key := fun ⟨w, hw⟩ => by simp [hknown] at hw
        have hnew : key ∉ memo.visiting := fun hin => hclear key hin hunknown .refl
        obtain ⟨candidate, hf⟩ := hmeans.declared
        have hinside : scope.Settled (memo.enter key) := ⟨hm.sound.enter key, hm.closed⟩
        have hanswers : scope.Answers scope.evaluate (scope.Later (memo.enter key))
            (candidate.references scope.type) := by
          intro other ho w hw span' inside hlater
          have hrefers : scope.Refers key other := ⟨candidate, hf, ho⟩
          have hother := (hclear.inside hmeans.not_cyclic hrefers).advance hlater.advances
          obtain ⟨after, hrun⟩ := ih other hrefers hlater.settled hw hother
          exact ⟨after, hrun, hlater.evaluated hrun⟩
        obtain ⟨inside, hrun⟩ := initializer_complete hmeans hf hanswers hinside.later_self
        exact ⟨_, run_constant_eq_ok.mpr (.inr ⟨hknown, hnew, candidate, inside, hf, hrun, rfl⟩)⟩
      · obtain rfl := (hm.sound key known hknown).unique hmeans
        exact ⟨memo, run_constant_eq_ok.mpr (.inl ⟨hknown, rfl⟩)⟩

/-- **A constant is evaluated exactly if it has a value and is clear.** -/
theorem evaluate_iff_clear (hm : scope.Settled memo) :
    (∃ after, (scope.evaluate key span).run memo = .ok (v, after)) ↔
      KeyMeans scope key v ∧ scope.Clear memo key := by
  constructor
  · rintro ⟨after, hrun⟩
    exact ⟨(evaluateWith_truthful scope.depth hm.sound hrun).1, clear_of_run hm.closed hrun⟩
  · rintro ⟨hmeans, hclear⟩
    exact exists_run_of_clear hm hmeans hclear

end EnumTables.Constants
