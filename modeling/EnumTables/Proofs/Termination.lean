import EnumTables.Proofs.Evaluation
import EnumTables.Proofs.Initializers
import Mathlib.Logic.Function.Iterate

/-!
# Evaluations end

The evaluation of a constant evaluates other constants inside it.  A constant in progress is refused, so that
each of those inside each other is another declared constant, and there are at most as many as are declared.
Hence it does not matter what stands below that many: the evaluation never gets there.

* `Scope.waiting` — how many declarations are not in progress, which is what gets less.
* `RunAlike` — two evaluations which cannot be told apart while given constants are in progress.
* `iterate_constant` — one constant inside the other, as often as there are declarations and once more, is the
  whole evaluation, whatever stands at the bottom.
* `evaluate_eq_constant` — the evaluation of a constant leaves those inside to the evaluation itself.
-/

namespace EnumTables.Constants

open EnumTables.Token

variable {scope : Scope} {visiting : List Key} {memo after : Memo} {key : Key} {span : Span} {v : Int}

/-! ## Declarations which are not in progress -/

/-- How many declarations are not in progress. -/
def Scope.waiting (scope : Scope) (visiting : List Key) : Nat :=
  ((scope.candidates.map Prod.fst).filter (· ∉ visiting)).length

lemma waiting_le (visiting : List Key) : scope.waiting visiting ≤ scope.candidates.length := by
  have hle := List.length_filter_le (· ∉ visiting) (scope.candidates.map Prod.fst)
  rwa [List.length_map] at hle

/-- A declared constant which was not in progress is not waited for while it is. -/
lemma waiting_cons_lt {candidate : Candidate} (hf : scope.candidates.find? key = some candidate)
    (hnew : key ∉ visiting) : scope.waiting (key :: visiting) < scope.waiting visiting := by
  have hsplit : ((scope.candidates.map Prod.fst).filter (· ∉ key :: visiting)) =
      ((scope.candidates.map Prod.fst).filter (· ∉ visiting)).filter (· ≠ key) := by
    rw [List.filter_filter]
    refine List.filter_congr fun other _ => ?_
    simp [List.mem_cons, not_or]
  rw [Scope.waiting, Scope.waiting, hsplit, List.length_filter_lt_length_iff_exists]
  exact ⟨key, List.mem_filter.mpr ⟨declared_of_find? hf, by simpa using hnew⟩, by simp⟩

/-! ## Evaluations which cannot be told apart -/

/-- **Two evaluations come to the same** while given constants are in progress, and if they succeed, the same
constants are in progress as before. -/
def RunAlike (visiting : List Key) (x y : Eval Int) : Prop :=
  ∀ memo, memo.visiting = visiting →
    x.run memo = y.run memo ∧ ∀ v after, x.run memo = .ok (v, after) → after.visiting = visiting

lemma runAlike_failAt (fault : Fault) (span : Span) :
    RunAlike visiting (failAt fault span) (failAt fault span) :=
  fun _ _ => ⟨rfl, fun _ _ h => (run_failAt_eq_ok.mp h).elim⟩

lemma composed_runAlike : Composed fun _ => RunAlike visiting where
  value v memo hv := ⟨rfl, fun w after h => (run_pure_eq_ok.mp h).2 ▸ hv⟩
  failure _ fault span _ := runAlike_failAt fault span
  sequence {_ _ x y f g} hx hf memo hv := by
    obtain ⟨hsame, hkept⟩ := hx memo hv
    rw [StateT.run_bind, StateT.run_bind, ← hsame]
    rcases hrun : x.run memo with failure | ⟨a, between⟩
    · exact ⟨rfl, nofun⟩
    · exact hf a between (hkept a between hrun)

/-- Constants are alike if the ones inside them are. -/
lemma runAlike_constant {resolve resolve' : Key → Span → Eval Int}
    (h : ∀ candidate, scope.candidates.find? key = some candidate → key ∉ visiting →
      ∀ other span, RunAlike (key :: visiting) (resolve other span) (resolve' other span)) :
    RunAlike visiting (scope.constant resolve key span) (scope.constant resolve' key span) := by
  rintro memo rfl
  rcases hknown : memo.values.lookup key with _ | known
  · rw [run_constant_of_unknown hknown, run_constant_of_unknown hknown]
    rcases hf : scope.candidates.find? key with _ | candidate
    · exact ⟨rfl, nofun⟩
    · by_cases hin : key ∈ memo.visiting
      · simp only [hin, if_true, true_and]
        exact nofun
      · simp only [hin, if_false]
        have hinside : RunAlike (key :: memo.visiting) (scope.initializer resolve candidate)
            (scope.initializer resolve' candidate) :=
          composed_runAlike.initializer fun other _ span => h candidate hf hin other span
        obtain ⟨hsame, hkept⟩ := hinside (memo.enter key) rfl
        rw [← hsame]
        rcases hrun : (scope.initializer resolve candidate).run (memo.enter key) with
          failure | ⟨w, inside⟩
        · exact ⟨rfl, nofun⟩
        · refine ⟨rfl, fun v after hafter => ?_⟩
          cases hafter
          -- the constant was put in front of those in progress, and is the one which is taken out
          simp only [Memo.leave, hkept w inside hrun, List.erase_cons_head]
  · rw [run_constant_of_known hknown, run_constant_of_known hknown]
    refine ⟨rfl, fun v after hafter => ?_⟩
    cases hafter
    rfl

/-- The evaluation of a constant leaves the constants in progress as they are, if it succeeds. -/
lemma visiting_evaluateWith {depth : Nat}
    (h : (scope.evaluateWith depth key span).run memo = .ok (v, after)) :
    after.visiting = memo.visiting := by
  have halike : ∀ visiting,
      RunAlike visiting (scope.evaluateWith depth key span) (scope.evaluateWith depth key span) := by
    clear h
    induction depth generalizing key span with
    | zero => exact fun _ => runAlike_failAt _ span
    | succ depth ih =>
        rw [evaluateWith_succ]
        exact fun visiting => runAlike_constant fun _ _ _ _ _ => ih _
  exact (halike memo.visiting memo rfl).2 v after h

/-- **What stands at the bottom does not matter**, once it is deeper than declarations are waiting. -/
lemma runAlike_iterate {n : Nat} (h : scope.waiting visiting < n) (bottom bottom' : Key → Span → Eval Int)
    (key : Key) (span : Span) :
    RunAlike visiting (scope.constant^[n] bottom key span) (scope.constant^[n] bottom' key span) := by
  induction n generalizing visiting key span with
  | zero => exact absurd h (Nat.not_lt_zero _)
  | succ n ih =>
      rw [Function.iterate_succ_apply', Function.iterate_succ_apply']
      refine runAlike_constant fun candidate hf hnew other span => ih ?_ other span
      have := waiting_cons_lt hf hnew
      omega

/-! ## The whole evaluation -/

lemma evaluateWith_eq_iterate (depth : Nat) :
    scope.evaluateWith depth = scope.constant^[depth] (scope.evaluateWith 0) := by
  induction depth with
  | zero => rfl
  | succ depth ih => rw [Function.iterate_succ_apply', ← ih, evaluateWith_succ]

/-- **Evaluations end.**  One constant inside the other, more often than there are declarations, is the whole
evaluation, whatever stands at the bottom and whatever is in the memo. -/
theorem iterate_constant {n : Nat} (h : scope.candidates.length < n) (bottom : Key → Span → Eval Int) :
    scope.constant^[n] bottom = scope.evaluate := by
  have hdeep : ∀ m, scope.candidates.length < m → ∀ low low' : Key → Span → Eval Int,
      scope.constant^[m] low = scope.constant^[m] low' := by
    intro m hm low low'
    funext key span
    refine StateT.ext fun memo => ?_
    exact (runAlike_iterate ((waiting_le memo.visiting).trans_lt hm) low low' key span memo rfl).1
  obtain ⟨more, rfl⟩ := Nat.exists_eq_add_of_lt h
  have hdepth : scope.depth = scope.candidates.length + 1 + 1 := rfl
  have hevaluate : scope.evaluate = scope.constant^[scope.depth] (scope.evaluateWith 0) :=
    evaluateWith_eq_iterate scope.depth
  have hn : scope.candidates.length + more + 1 = scope.candidates.length + 1 + more := by omega
  rw [hevaluate, hn, hdepth, Function.iterate_add_apply, Function.iterate_add_apply]
  exact hdeep _ (Nat.lt_succ_self _) _ _

/-- **The evaluation of a constant leaves those inside to the evaluation itself.** -/
theorem evaluate_eq_constant (scope : Scope) : scope.evaluate = scope.constant scope.evaluate := by
  have hlt : scope.candidates.length < scope.candidates.length + 1 := Nat.lt_succ_self _
  have honce := iterate_constant (hlt.trans (Nat.lt_succ_self _)) (scope.evaluateWith 0)
  rw [Function.iterate_succ_apply', iterate_constant hlt] at honce
  exact honce.symm

end EnumTables.Constants
