import EnumTables.Proofs.Initializers
import EnumTables.Proofs.Listing

/-!
# The memo cannot be observed

The constants of a group are evaluated one behind the other with one memo.  The values in it spare work and
nothing else: each constant comes to what it would come to with a memo of its own, and so the group comes to
what its constants come to one by one, failures with their places included.

* `Scope.Amid` — a sound memo while given constants are in progress.
* `Scope.Steady` — an evaluation which comes to the same in all such memos.
* `composed_steady` — initializers are steady if the constants which they refer to are.
* `steady_evaluateWith` — constants are steady.  A constant with a value is found with every memo; one
  without is in no memo, so that every memo leads into its initializer.
* `constantsOf_eq_mapM` — constants come to what they come to one by one.
-/

namespace EnumTables.Constants

open EnumTables.Number EnumTables.Source EnumTables.Token

variable {scope : Scope} {visiting : List Key} {memo memo' : Memo} {key : Key} {span : Span} {α β : Type}

/-! ## Steady evaluations -/

/-- A memo which is sound, while some constants are in progress. -/
structure Scope.Amid (scope : Scope) (visiting : List Key) (memo : Memo) : Prop where
  sound : scope.Sound memo
  visiting : memo.visiting = visiting

lemma Scope.Amid.enter (h : scope.Amid visiting memo) (key : Key) :
    scope.Amid (key :: visiting) (memo.enter key) :=
  ⟨h.sound.enter key, congrArg (key :: ·) h.visiting⟩

/-- **Two runs end alike**: with one value, or with one failure. -/
inductive Scope.EndAlike (scope : Scope) (visiting : List Key) :
    Except Failure (α × Memo) → Except Failure (α × Memo) → Prop
  | value {a : α} {after after' : Memo} :
      scope.Amid visiting after → scope.Amid visiting after' →
      EndAlike scope visiting (.ok (a, after)) (.ok (a, after'))
  | failure {failure : Failure} : EndAlike scope visiting (.error failure) (.error failure)

/-- **An evaluation is steady** if it ends alike in all sound memos, as long as the same constants are in
progress. -/
def Scope.Steady (scope : Scope) (visiting : List Key) (x : Eval α) : Prop :=
  ∀ memo memo', scope.Amid visiting memo → scope.Amid visiting memo' →
    scope.EndAlike visiting (x.run memo) (x.run memo')

lemma steady_pure (a : α) : scope.Steady visiting (pure a : Eval α) :=
  fun _ _ hm hm' => .value hm hm'

lemma steady_failAt (fault : Fault) (span : Span) : scope.Steady visiting (failAt fault span : Eval α) :=
  fun _ _ _ _ => .failure

/-- Runs which end alike go on alike. -/
lemma Scope.EndAlike.bind {run run' : Except Failure (α × Memo)} {f : α → Eval β}
    (h : scope.EndAlike visiting run run') (hf : ∀ a, scope.Steady visiting (f a)) :
    scope.EndAlike visiting (run >>= fun (a, after) => (f a).run after)
      (run' >>= fun (a, after) => (f a).run after) := by
  cases h with
  | value ha ha' => exact hf _ _ _ ha ha'
  | failure => exact .failure

lemma Scope.Steady.bind {x : Eval α} {f : α → Eval β} (hx : scope.Steady visiting x)
    (hf : ∀ a, scope.Steady visiting (f a)) : scope.Steady visiting (x >>= f) := by
  intro memo memo' hm hm'
  rw [StateT.run_bind, StateT.run_bind]
  exact (hx memo memo' hm hm').bind hf

/-- Initializers are steady if the constants which they refer to are. -/
lemma composed_steady : Composed fun _ x _ => scope.Steady visiting x where
  value := steady_pure
  failure _ fault span _ := steady_failAt fault span
  sequence hx hf := hx.bind hf

/-! ## Constants -/

/-- A constant without a value is in no sound memo. -/
lemma Scope.Amid.lookup_eq_none (hm : scope.Amid visiting memo) (hvalue : ¬ ∃ v, KeyMeans scope key v) :
    memo.values.lookup key = none := by
  rcases hknown : memo.values.lookup key with _ | v
  · rfl
  · exact absurd ⟨v, hm.sound key v hknown⟩ hvalue

/-- The initializer of a constant without a value fails. -/
lemma exists_initializer_eq_error {depth : Nat} {candidate : Candidate}
    (hm : scope.Amid visiting memo) (hf : scope.candidates.find? key = some candidate)
    (hvalue : ¬ ∃ v, KeyMeans scope key v) :
    ∃ failure, (scope.initializer (scope.evaluateWith depth) candidate).run (memo.enter key) =
      .error failure := by
  rcases hrun : (scope.initializer (scope.evaluateWith depth) candidate).run (memo.enter key) with
    failure | ⟨v, inside⟩
  · exact ⟨failure, rfl⟩
  · have hmeans := initializer_sound (evaluateWith_truthful depth) (hm.enter key).sound hf hrun
    exact absurd ⟨v, hmeans.1⟩ hvalue

/-- **Constants are steady**, also where they fail, as long as each constant in progress refers to the one
at hand. -/
theorem steady_evaluateWith {depth : Nat} {key : Key} (span : Span)
    (hp : scope.Pending visiting depth key) :
    scope.Steady visiting (scope.evaluateWith depth key span) := by
  induction depth generalizing visiting key span with
  | zero => exact absurd rfl hp.depth_ne_zero
  | succ depth ih =>
      intro memo memo' hm hm'
      by_cases hvalue : ∃ v, KeyMeans scope key v
      · -- a constant with a value is found, in the memo or in its initializer
        obtain ⟨v, hmeans⟩ := hvalue
        obtain ⟨after, hrun⟩ := evaluateWith_complete span hmeans hm.sound (hm.visiting ▸ hp)
        obtain ⟨after', hrun'⟩ := evaluateWith_complete span hmeans hm'.sound (hm'.visiting ▸ hp)
        obtain ⟨-, hs, hv⟩ := evaluateWith_truthful _ hm.sound hrun
        obtain ⟨-, hs', hv'⟩ := evaluateWith_truthful _ hm'.sound hrun'
        rw [hrun, hrun']
        exact .value ⟨hs, hv.trans hm.visiting⟩ ⟨hs', hv'.trans hm'.visiting⟩
      · -- without a value, both runs fail in its initializer or before they come to it
        rw [evaluateWith_succ, run_constant_of_unknown (hm.lookup_eq_none hvalue),
          run_constant_of_unknown (hm'.lookup_eq_none hvalue), hm.visiting, hm'.visiting]
        rcases hf : scope.candidates.find? key with _ | candidate
        · exact .failure
        · by_cases hin : key ∈ visiting
          · simp only [hin, if_true]
            exact .failure
          · have hsteady := composed_steady.initializer_self
              fun other ho span => ih span (hp.step hin hf ho)
            have hends := hsteady _ _ (hm.enter key) (hm'.enter key)
            obtain ⟨failure, hrun⟩ := exists_initializer_eq_error hm hf hvalue
            obtain ⟨failure', hrun'⟩ := exists_initializer_eq_error hm' hf hvalue
            rw [hrun, hrun'] at hends
            simp only [hin, if_false, hrun, hrun']
            cases hends with
            | failure => exact .failure

end EnumTables.Constants

namespace EnumTables.Group

open EnumTables.Constants EnumTables.Source EnumTables.Token

variable {scope : Scope} {memo : Memo} {file : SourceFile} {name : String} {subject : Subject}

/-! ## Constants one by one -/

/-- **The constant of a declaration, evaluated with a memo of its own.** -/
def evaluatedAlone (scope : Scope) (declaration : Declaration) : Except Failure Constant :=
  ((evaluated scope declaration).run .empty).map Prod.fst

lemma steady_evaluated (declaration : Declaration) : scope.Steady [] (evaluated scope declaration) :=
  (steady_evaluateWith _ (pending_nil declaration.key)).bind fun _ => steady_pure _

lemma Idle.amid (hm : Idle scope memo) : scope.Amid [] memo := ⟨hm.sound, hm.visiting⟩

/-- A run over declarations comes to what they come to one by one, whatever was evaluated before. -/
lemma map_run_mapM_evaluated (hm : scope.Amid [] memo) (members : List Declaration) :
    ((members.mapM (evaluated scope)).run memo).map Prod.fst = members.mapM (evaluatedAlone scope) := by
  induction members generalizing memo with
  | nil => rfl
  | cons member rest ih =>
      rw [List.mapM_cons, List.mapM_cons, evaluatedAlone, StateT.run_bind]
      have hends := steady_evaluated member memo .empty hm idle_empty.amid
      generalize (evaluated scope member).run memo = run at hends
      generalize (evaluated scope member).run .empty = alone at hends
      cases hends with
      | failure => rfl
      | @value constant after _ ha _ =>
          have hrest : (((rest.mapM (evaluated scope)) >>= fun constants =>
              pure (constant :: constants)).run after).map Prod.fst =
              rest.mapM (evaluatedAlone scope) >>= fun constants => pure (constant :: constants) := by
            rw [← ih ha, StateT.run_bind]
            rcases (rest.mapM (evaluated scope)).run after with failure | ⟨constants, _⟩ <;> rfl
          exact hrest

/-- **Constants come to what they come to one by one.**  Behind the first one which fails nothing is
evaluated in either way. -/
theorem constantsOf_eq_mapM (scope : Scope) (members : List Declaration) :
    constantsOf scope members = members.mapM (evaluatedAlone scope) := by
  rw [← map_run_mapM_evaluated idle_empty.amid, constantsOf]
  rcases (members.mapM (evaluated scope)).run .empty with failure | ⟨constants, _⟩ <;> rfl

/-! ## Traversals which fail -/

section

variable {ε α β : Type} {f : α → Except ε β}

lemma mapM_eq_ok_iff {l : List α} {found : List β} :
    l.mapM f = .ok found ↔ List.Forall₂ (fun a b => f a = .ok b) l found := by
  induction l generalizing found with
  | nil => simp [pure, Except.pure, eq_comm]
  | cons a rest ih =>
      rw [List.mapM_cons]
      rcases ha : f a with failure | b
      · simp [bind, Except.bind, List.forall₂_cons_left_iff, ha]
      · rcases hrest : rest.mapM f with failure | others
        · simp [bind, Except.bind, List.forall₂_cons_left_iff, ha, ← ih, hrest]
        · simp [bind, Except.bind, pure, Except.pure, List.forall₂_cons_left_iff, ha, ← ih, hrest, eq_comm]

/-- A traversal fails as the first element does at which it fails. -/
lemma mapM_eq_error_iff {l : List α} {failure : ε} :
    l.mapM f = .error failure ↔
      ∃ before a behind, l = before ++ a :: behind ∧ (∀ earlier ∈ before, ∃ b, f earlier = .ok b) ∧
        f a = .error failure := by
  induction l with
  | nil => simp [pure, Except.pure]
  | cons a rest ih =>
      rw [List.mapM_cons]
      rcases ha : f a with first | b
      · simp only [bind, Except.bind, Except.error.injEq]
        constructor
        · rintro rfl
          exact ⟨[], a, rest, rfl, by simp, ha⟩
        · rintro ⟨_ | ⟨c, before⟩, a', behind, hl, hbefore, hf⟩
          · cases hl
            rw [ha] at hf
            exact Except.error.inj hf
          · cases hl
            obtain ⟨b, hb⟩ := hbefore a (List.mem_cons_self ..)
            rw [ha] at hb
            cases hb
      · have hrest : (do let b ← Except.ok b; let others ← rest.mapM f; pure (b :: others)) =
            .error failure ↔ rest.mapM f = .error failure := by
          rcases rest.mapM f with other | others <;> simp [bind, Except.bind, pure, Except.pure]
        rw [hrest, ih]
        constructor
        · rintro ⟨before, a', behind, rfl, hbefore, hf⟩
          exact ⟨a :: before, a', behind, rfl, List.forall_mem_cons.mpr ⟨⟨b, ha⟩, hbefore⟩, hf⟩
        · rintro ⟨_ | ⟨c, before⟩, a', behind, hl, hbefore, hf⟩
          · cases hl
            rw [ha] at hf
            cases hf
          · cases hl
            exact ⟨before, a', behind, rfl, (List.forall_mem_cons.mp hbefore).2, hf⟩

end

/-! ## Groups -/

/-- **What was evaluated before cannot be observed in a group.**  If the type is fit for a group and has
constants, the group is found exactly if each constant is found with a memo of its own, and lists what is
found in this way; and it fails exactly as the first constant does which fails with a memo of its own, for
the same reason and at the same place. -/
theorem ofFile_eq_alone (hs : subject? file name = .ok subject)
    (hm : membersOf (declarations file name) ≠ []) :
    (∀ group, ofFile file name = .ok group ↔
      ∃ constants,
        List.Forall₂
          (fun member constant => evaluatedAlone (scopeOf file name subject) member = .ok constant)
          (membersOf (declarations file name)) constants ∧
        group = ⟨subject.item.visibility, subject.item.name, subject.repr, constants⟩) ∧
    (∀ failure, ofFile file name = .error failure ↔
      ∃ before member behind,
        membersOf (declarations file name) = before ++ member :: behind ∧
        (∀ earlier ∈ before, ∃ constant,
          evaluatedAlone (scopeOf file name subject) earlier = .ok constant) ∧
        evaluatedAlone (scopeOf file name subject) member = .error failure) := by
  simp only [ofFile_eq_map hs hm, constantsOf_eq_mapM, ← mapM_eq_ok_iff, ← mapM_eq_error_iff]
  rcases (membersOf (declarations file name)).mapM (evaluatedAlone (scopeOf file name subject)) with
    failure | constants
  · simp only [Except.map, Except.error.injEq, reduceCtorEq, false_and, exists_false, implies_true,
      and_true]
  · simp only [Except.map, Except.ok.injEq, reduceCtorEq, exists_eq_left', implies_true, and_true]
    exact fun group => eq_comm

/-- A file in which two constants of the type `A` refer to each other, behind one which shares an integer
with them. -/
def tangledFile : SourceFile :=
  let span : Span := { start := .origin, stop := .origin }
  let at_ (column : Nat) : Span := { start := ⟨1, column⟩, stop := ⟨1, column + 1⟩ }
  { items := [
      .type ⟨.inherited, ⟨"A", span⟩, none, .tuple [.path (.ofName "u8")], span⟩,
      .const ⟨⟨"B", span⟩, .path (.ofName "A"),
        .call (.path (.ofName "A") span) (.path (.ofName "C") span) span⟩,
      .const ⟨⟨"C", span⟩, .path (.ofName "u8"), .integer ⟨5, ""⟩ span span⟩,
      .const ⟨⟨"D", span⟩, .path (.ofName "A"),
        .call (.path (.ofName "A") span)
          (.binary .div (.path (.ofName "C") span) (.field (.path (.ofName "E") span) 0 (at_ 7)) span)
          span⟩,
      .const ⟨⟨"E", span⟩, .path (.ofName "A"),
        .call (.path (.ofName "A") span) (.field (.path (.ofName "D") span) 0 (at_ 8)) span⟩],
    span }

theorem ofFile_eq_alone_tangledFile :
    ∃ subject, subject? tangledFile "A" = .ok subject ∧ membersOf (declarations tangledFile "A") ≠ [] ∧
      ofFile tangledFile "A" = .error ⟨.cycle (.free "D"), ⟨⟨1, 8⟩, ⟨1, 9⟩, false⟩⟩ := by
  refine ⟨_, rfl, by decide, ((ofFile_eq_alone rfl (by decide)).2 _).mpr
    ⟨(membersOf (declarations tangledFile "A")).take 1, (membersOf (declarations tangledFile "A"))[1], _,
      rfl, ?_, rfl⟩⟩
  intro earlier hearlier
  obtain rfl := List.mem_singleton.mp hearlier
  exact ⟨_, rfl⟩

end EnumTables.Group
