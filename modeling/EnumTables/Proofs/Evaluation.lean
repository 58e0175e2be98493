import EnumTables.Proofs.Runs
import Mathlib.Data.List.Perm.Subperm

/-!
# Evaluation finds the values of constants

An evaluation gives a value exactly if the constant has one, although it keeps a memo and refuses constants
which are in progress.

**Soundness.**  `Scope.Sound` is the invariant of the memo: every value in it is that of its constant.  A
run which succeeds keeps it, leaves the constants in progress as they were and gives the value of the
constant (`evaluateWith_truthful`).

**Completeness.**  `Scope.Pending` is the invariant of the constants in progress: each of them refers to the
constant at hand, over however many others.  A constant with a value is never in progress when it is asked
for, since it would refer to itself; so the evaluation of what has a value never fails
(`evaluateWith_complete`).
-/

namespace EnumTables.Constants

open EnumTables.Number EnumTables.Source EnumTables.Token Relation

variable {scope : Scope} {resolve : Key → Span → Eval Int} {memo after : Memo} {key : Key} {span : Span}
  {v : Int}

/-! ## Soundness -/

/-- Every value of a memo is the value of its constant. -/
def Scope.Sound (scope : Scope) (memo : Memo) : Prop :=
  ∀ key v, memo.values.lookup key = some v → KeyMeans scope key v

lemma sound_empty : scope.Sound .empty := by
  intro key v h
  simp [Memo.empty] at h

lemma Scope.Sound.enter (h : scope.Sound memo) (key : Key) : scope.Sound (memo.enter key) := h

lemma Scope.Sound.leave (h : scope.Sound memo) (hv : KeyMeans scope key v) :
    scope.Sound (memo.leave key v) := by
  intro other w hw
  rw [Memo.leave, List.lookup_cons] at hw
  split at hw
  · rename_i hother
    rw [beq_iff_eq] at hother
    cases hw
    exact hother ▸ hv
  · exact h other w hw

/-- What a run which succeeds says: the value is right, the memo stays sound, and the same constants are
in progress as before. -/
def Scope.Keeps (scope : Scope) (memo after : Memo) (right : Prop) : Prop :=
  right ∧ scope.Sound after ∧ after.visiting = memo.visiting

/-- Runs which succeed give the values of constants. -/
def Scope.Truthful (scope : Scope) (resolve : Key → Span → Eval Int) : Prop :=
  ∀ {key span memo v after}, scope.Sound memo → (resolve key span).run memo = .ok (v, after) →
    scope.Keeps memo after (KeyMeans scope key v)

lemma integer_sound (hr : scope.Truthful resolve) {e : Expr} (hm : scope.Sound memo)
    (h : (scope.integer resolve e).run memo = .ok (v, after)) :
    scope.Keeps memo after (IntegerMeans scope e v) := by
  induction e generalizing memo after v with
  | integer number place span =>
      rw [Scope.integer, run_literalValue_eq_ok] at h
      obtain ⟨⟨hf, hs⟩, rfl, rfl⟩ := h
      exact ⟨.literal hf hs, hm, rfl⟩
  | neg operand span ih =>
      cases hl : isLiteral operand
      · obtain ⟨a, ha, hf, rfl⟩ := (run_neg_eq_ok hl).mp h
        obtain ⟨hmeans, hrest⟩ := ih hm ha
        exact ⟨.neg hl hmeans hf, hrest⟩
      · cases operand <;> simp only [isLiteral, Bool.false_eq_true] at hl
        rw [Scope.integer, run_negLiteralValue_eq_ok] at h
        obtain ⟨⟨hf, hs⟩, rfl, rfl⟩ := h
        exact ⟨.negLiteral hf hs, hm, rfl⟩
  | binary op left right span ihl ihr =>
      simp only [Scope.integer, run_bind_eq_ok] at h
      obtain ⟨a, between, ha, b, between', hb, hop⟩ := h
      obtain ⟨hma, hsa, hva⟩ := ihl hm ha
      obtain ⟨hmb, hsb, hvb⟩ := ihr hsa hb
      obtain ⟨hy, rfl⟩ := (run_applyOp_eq_ok hma.fits).mp hop
      exact ⟨.binary hma hmb hy, hsb, hvb.trans hva⟩
  | cast operand target span ih =>
      obtain ⟨a, type, ha, ht, rfl⟩ := run_cast_eq_ok.mp h
      obtain ⟨hma, hrest⟩ := ih hm ha
      exact ⟨.cast hma ht (type.holds_wrap a) (type.wrap_modEq a), hrest⟩
  | path path span =>
      rcases run_path_eq_ok.mp h with ⟨hb, rfl⟩ | ⟨hb, key, hk, hg, hrun⟩
      · exact ⟨.bound hb, hm, rfl⟩
      · obtain ⟨hmeans, hrest⟩ := hr hm hrun
        exact ⟨.path hb hk hg hmeans, hrest⟩
  | field base index span =>
      obtain ⟨path, inner, key, rfl, rfl, hk, hs, hrun⟩ := run_field_eq_ok.mp h
      obtain ⟨hmeans, hrest⟩ := hr hm hrun
      exact ⟨.field hk hs hmeans, hrest⟩
  | paren inner span ih =>
      rw [Scope.integer] at h
      obtain ⟨hmeans, hrest⟩ := ih hm h
      exact ⟨.paren hmeans, hrest⟩
  | call | block | range | other =>
      rw [Scope.integer, run_failAt_eq_ok] at h
      exact h.elim

lemma group_sound (hr : scope.Truthful resolve) {e : Expr} (hm : scope.Sound memo)
    (h : (scope.group resolve e).run memo = .ok (v, after)) :
    scope.Keeps memo after (GroupMeans scope e v) := by
  induction e with
  | call function argument span =>
      obtain ⟨hc, hrun, hv⟩ := run_call_eq_ok.mp h
      obtain ⟨hmeans, hrest⟩ := integer_sound hr hm hrun
      exact ⟨.call hc hmeans hv, hrest⟩
  | path path span =>
      obtain ⟨key, hk, hg, hrun⟩ := run_alias_eq_ok.mp h
      obtain ⟨hmeans, hrest⟩ := hr hm hrun
      exact ⟨.path hk hg hmeans, hrest⟩
  | paren inner span ih =>
      rw [Scope.group] at h
      obtain ⟨hmeans, hrest⟩ := ih h
      exact ⟨.paren hmeans, hrest⟩
  | _ =>
      simp only [Scope.group, run_failAt_eq_ok] at h

lemma initializer_sound (hr : scope.Truthful resolve) {candidate : Candidate} (hm : scope.Sound memo)
    (hf : scope.candidates.find? key = some candidate)
    (h : (scope.initializer resolve candidate).run memo = .ok (v, after)) :
    scope.Keeps memo after (KeyMeans scope key v) := by
  obtain ⟨kind, initializer⟩ := candidate
  cases kind with
  | group =>
      obtain ⟨hmeans, hrest⟩ := group_sound hr hm h
      exact ⟨.group hf hmeans, hrest⟩
  | scalar type =>
      simp only [Scope.initializer, run_bind_eq_ok, run_inRange_eq_ok] at h
      obtain ⟨_, _, hrun, hv, rfl, rfl⟩ := h
      obtain ⟨hmeans, hrest⟩ := integer_sound hr hm hrun
      exact ⟨.scalar hf hmeans hv, hrest⟩

/-- **What is evaluated is right**, at any depth. -/
theorem evaluateWith_truthful (depth : Nat) : scope.Truthful (scope.evaluateWith depth) := by
  induction depth with
  | zero =>
      intro key span memo v after hm h
      rw [Scope.evaluateWith, run_failAt_eq_ok] at h
      exact h.elim
  | succ depth ih =>
      intro key span memo v after hm h
      rw [evaluateWith_succ] at h
      rcases run_constant_eq_ok.mp h with ⟨hknown, rfl⟩ | ⟨-, -, candidate, inside, hf, hrun, rfl⟩
      · exact ⟨hm key v hknown, hm, rfl⟩
      · obtain ⟨hmeans, hs, hv⟩ := initializer_sound ih (hm.enter key) hf hrun
        refine ⟨hmeans, hs.leave hmeans, ?_⟩
        -- the constant was put in front of those in progress, and is the one which is taken out
        simp only [Memo.leave, hv, Memo.enter, List.erase_cons_head]

/-! ## Completeness -/

/-- Runs on constants with a value succeed in memos which are ready for them, and leave such memos. -/
def Scope.Answers (scope : Scope) (resolve : Key → Span → Eval Int) (Ready : Memo → Prop)
    (keys : List Key) : Prop :=
  ∀ key ∈ keys, ∀ {v}, KeyMeans scope key v → ∀ span {memo}, Ready memo →
    ∃ after, (resolve key span).run memo = .ok (v, after) ∧ Ready after

variable {Ready : Memo → Prop}

lemma Scope.Answers.mono {keys fewer : List Key} (h : scope.Answers resolve Ready keys)
    (hsub : fewer ⊆ keys) : scope.Answers resolve Ready fewer :=
  fun key hkey => h key (hsub hkey)

lemma integer_complete {e : Expr} (h : IntegerMeans scope e v)
    (ha : scope.Answers resolve Ready (integerReferences scope.type e)) (hm : Ready memo) :
    ∃ after, (scope.integer resolve e).run memo = .ok (v, after) ∧ Ready after := by
  induction e generalizing memo v with
  | integer number place span =>
      cases h with
      | literal hf hs =>
          rw [Scope.integer]
          exact ⟨memo, run_literalValue_eq_ok.mpr ⟨⟨hf, hs⟩, rfl, rfl⟩, hm⟩
  | neg operand span ih =>
      cases h with
      | negLiteral hf hs =>
          rw [Scope.integer]
          exact ⟨memo, run_negLiteralValue_eq_ok.mpr ⟨⟨hf, hs⟩, rfl, rfl⟩, hm⟩
      | neg hl h hf =>
          obtain ⟨after, hrun, hafter⟩ := ih h ha hm
          exact ⟨after, (run_neg_eq_ok hl).mpr ⟨_, hrun, hf, rfl⟩, hafter⟩
  | binary op left right span ihl ihr =>
      cases h with
      | binary hl hr hy =>
          obtain ⟨between, hrunl, hbetween⟩ := ihl hl (ha.mono (List.subset_append_left _ _)) hm
          obtain ⟨after, hrunr, hafter⟩ := ihr hr (ha.mono (List.subset_append_right _ _)) hbetween
          refine ⟨after, ?_, hafter⟩
          simp only [Scope.integer, run_bind_eq_ok]
          exact ⟨_, between, hrunl, _, after, hrunr, (run_applyOp_eq_ok hl.fits).mpr ⟨hy, rfl⟩⟩
  | cast operand target span ih =>
      cases h with
      | cast h ht hv hmod =>
          obtain ⟨after, hrun, hafter⟩ := ih h ha hm
          exact ⟨after, run_cast_eq_ok.mpr ⟨_, _, hrun, ht, Primitive.eq_wrap_of_modEq hv hmod⟩, hafter⟩
  | path path span =>
      cases h with
      | bound hb => exact ⟨memo, run_path_eq_ok.mpr (.inl ⟨hb, rfl⟩), hm⟩
      | path hb hk hg h =>
          obtain ⟨after, hrun, hafter⟩ := ha _ (by simp [integerReferences, hb, hk]) h span hm
          exact ⟨after, run_path_eq_ok.mpr (.inr ⟨hb, _, hk, hg, hrun⟩), hafter⟩
  | field base index span =>
      cases h with
      | field hk hs h =>
          obtain ⟨after, hrun, hafter⟩ := ha _ (by simp [integerReferences, hk]) h span hm
          exact ⟨after, run_field_eq_ok.mpr ⟨_, _, _, rfl, rfl, hk, hs, hrun⟩, hafter⟩
  | paren inner span ih =>
      cases h with
      | paren h =>
          rw [Scope.integer]
          exact ih h ha hm
  | call | block | range | other => cases h

lemma group_complete {e : Expr} (h : GroupMeans scope e v)
    (ha : scope.Answers resolve Ready (groupReferences scope.type e)) (hm : Ready memo) :
    ∃ after, (scope.group resolve e).run memo = .ok (v, after) := by
  induction e with
  | call function argument span =>
      cases h with
      | call hc h hv =>
          obtain ⟨after, hrun, -⟩ := integer_complete h ha hm
          exact ⟨after, run_call_eq_ok.mpr ⟨hc, hrun, hv⟩⟩
  | path path span =>
      cases h with
      | path hk hg h =>
          obtain ⟨after, hrun, -⟩ := ha _ (by simp [groupReferences, hk]) h span hm
          exact ⟨after, run_alias_eq_ok.mpr ⟨_, hk, hg, hrun⟩⟩
  | paren inner span ih =>
      cases h with
      | paren h =>
          rw [Scope.group]
          exact ih h ha
  | _ => cases h

lemma initializer_complete {candidate : Candidate} (hmeans : KeyMeans scope key v)
    (hf : scope.candidates.find? key = some candidate)
    (ha : scope.Answers resolve Ready (candidate.references scope.type)) (hm : Ready memo) :
    ∃ after, (scope.initializer resolve candidate).run memo = .ok (v, after) := by
  cases hmeans with
  | group hf' h =>
      rw [hf] at hf'
      cases hf'
      exact group_complete h ha hm
  | scalar hf' h hv =>
      rw [hf] at hf'
      cases hf'
      obtain ⟨after, hrun, -⟩ := integer_complete h ha hm
      refine ⟨after, ?_⟩
      simp only [Scope.initializer, run_bind_eq_ok, run_inRange_eq_ok]
      exact ⟨_, after, hrun, hv, rfl, rfl⟩

/-! ## Constants in progress -/

lemma declared_of_find? {candidates : Candidates} {key : Key} {candidate : Candidate}
    (h : candidates.find? key = some candidate) : key ∈ candidates.map Prod.fst := by
  obtain ⟨before, behind, rfl, -⟩ := List.lookup_eq_some_iff.mp h
  simp

/-- **The constants in progress when `key` is asked for**: they were declared, none is there twice, each
refers to `key` over however many others, and `depth` is enough for all which are not in progress. -/
structure Scope.Pending (scope : Scope) (visiting : List Key) (depth : Nat) (key : Key) : Prop where
  nodup : visiting.Nodup
  declared : visiting ⊆ scope.candidates.map Prod.fst
  refers : ∀ other ∈ visiting, TransGen scope.Refers other key
  enough : scope.depth ≤ visiting.length + depth

lemma pending_nil (key : Key) : scope.Pending [] scope.depth key where
  nodup := List.nodup_nil
  declared := List.nil_subset _
  refers := by simp
  enough := by simp

/-- The depth is not used up while constants are in progress. -/
lemma Scope.Pending.depth_ne_zero {visiting : List Key} {depth : Nat}
    (h : scope.Pending visiting depth key) : depth ≠ 0 := by
  rintro rfl
  have hle := (List.subperm_of_subset h.nodup h.declared).length_le
  have henough := h.enough
  rw [List.length_map] at hle
  rw [Scope.depth] at henough
  omega

/-- A constant with a value is not in progress when it is asked for. -/
lemma Scope.Pending.not_mem {visiting : List Key} {depth : Nat} (h : scope.Pending visiting depth key)
    (hmeans : KeyMeans scope key v) : key ∉ visiting :=
  fun hmem => hmeans.not_cyclic (h.refers key hmem)

/-- While a constant is in progress, so are the constants which it refers to when they are asked for. -/
lemma Scope.Pending.step {visiting : List Key} {depth : Nat} {candidate : Candidate} {other : Key}
    (h : scope.Pending visiting (depth + 1) key) (hnew : key ∉ visiting)
    (hf : scope.candidates.find? key = some candidate) (ho : other ∈ candidate.references scope.type) :
    scope.Pending (key :: visiting) depth other := by
  have hstep : scope.Refers key other := ⟨candidate, hf, ho⟩
  refine ⟨List.nodup_cons.mpr ⟨hnew, h.nodup⟩,
    List.cons_subset.mpr ⟨declared_of_find? hf, h.declared⟩, ?_, ?_⟩
  · intro earlier he
    rcases List.mem_cons.mp he with rfl | he
    · exact .single hstep
    · exact (h.refers earlier he).tail hstep
  · have henough := h.enough
    rw [List.length_cons]
    omega

/-- **What has a value is found**, when it may be asked for. -/
theorem evaluateWith_complete {depth : Nat} {key : Key} {v : Int} {memo : Memo} (span : Span)
    (hmeans : KeyMeans scope key v) (hm : scope.Sound memo)
    (hp : scope.Pending memo.visiting depth key) :
    ∃ after, (scope.evaluateWith depth key span).run memo = .ok (v, after) := by
  induction depth generalizing key v memo span with
  | zero => exact absurd rfl hp.depth_ne_zero
  | succ depth ih =>
      rw [evaluateWith_succ]
      rcases hknown : memo.values.lookup key with _ | known
      · obtain ⟨candidate, hf⟩ := hmeans.declared
        have hanswers : scope.Answers (scope.evaluateWith depth)
            (fun inside => scope.Sound inside ∧ inside.visiting = key :: memo.visiting)
            (candidate.references scope.type) := by
          rintro other ho w hw span' inside ⟨hs, hvisiting⟩
          obtain ⟨after, hrun⟩ := ih span' hw hs (hvisiting ▸ hp.step (hp.not_mem hmeans) hf ho)
          obtain ⟨-, hs', hv'⟩ := evaluateWith_truthful depth hs hrun
          exact ⟨after, hrun, hs', hv'.trans hvisiting⟩
        obtain ⟨inside, hrun⟩ := initializer_complete hmeans hf hanswers ⟨hm.enter key, rfl⟩
        exact ⟨_, run_constant_eq_ok.mpr
          (.inr ⟨hknown, hp.not_mem hmeans, candidate, inside, hf, hrun, rfl⟩)⟩
      · obtain rfl := (hm key known hknown).unique hmeans
        exact ⟨memo, run_constant_eq_ok.mpr (.inl ⟨hknown, rfl⟩)⟩

/-- **A constant is evaluated exactly if it has a value**, and to that value, in every sound memo without
constants in progress. -/
theorem evaluate_iff {memo : Memo} (hm : scope.Sound memo) (hv : memo.visiting = []) :
    (∃ after, (scope.evaluate key span).run memo = .ok (v, after)) ↔ KeyMeans scope key v := by
  constructor
  · rintro ⟨after, h⟩
    exact (evaluateWith_truthful _ hm h).1
  · intro h
    exact evaluateWith_complete span h hm (hv ▸ pending_nil key)

/-! ## Memos which can be reached -/

/-- **The memos of an evaluation**: the empty one, one in which the evaluation of a constant begins, and
one which the evaluation of a constant leaves. -/
inductive Scope.Reached (scope : Scope) : Memo → Prop
  | start : Reached scope .empty
  | enter {memo : Memo} (key : Key) : Reached scope memo → Reached scope (memo.enter key)
  | evaluated {memo after : Memo} {depth : Nat} {key : Key} {span : Span} {v : Int} :
      Reached scope memo →
      (scope.evaluateWith depth key span).run memo = .ok (v, after) → Reached scope after

/-- Whatever was evaluated before, and whatever is in progress, the values which are known are right. -/
theorem Scope.Reached.sound {memo : Memo} (h : scope.Reached memo) : scope.Sound memo := by
  induction h with
  | start => exact sound_empty
  | enter key _ ih => exact ih.enter key
  | evaluated _ hrun ih => exact (evaluateWith_truthful _ ih hrun).2.1

end EnumTables.Constants
