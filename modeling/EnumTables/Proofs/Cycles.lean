import EnumTables.Proofs.Listing
import EnumTables.Proofs.Termination

/-!
# Cycles are found, exactly

A constant is refused as a cycle if it is asked for while it is in progress.  The constants in progress refer
to each other one after the other, so that the one which is refused refers to itself over those behind it;
and a constant from which a cycle can be reached has no value, so that no group lists it.

* `Confined` — an evaluation which leaves the constants in progress as they are, and which finds only
  certain cycles.
* `confined_evaluateWith` — an evaluation finds only cycles which can be reached from its constant.
* `run_mapM_evaluated_eq_error` — where a run over declarations fails.
* `cycles_exact` — evaluations end, and a group is refused for a cycle only where there is one.
-/

namespace EnumTables.Constants

open EnumTables.Token Relation

variable {scope : Scope} {visiting : List Key} {memo : Memo} {key : Key} {span : Span}

/-! ## Cycles of an evaluation -/

/-- **A constant lies on a cycle** of references, and can be reached from a constant. -/
def Scope.ReachesCycle (scope : Scope) (key other : Key) : Prop :=
  ReflTransGen scope.Refers key other ∧ TransGen scope.Refers other other

lemma Scope.ReachesCycle.head {next other : Key} (h : scope.ReachesCycle next other)
    (hr : scope.Refers key next) : scope.ReachesCycle key other := ⟨h.1.head hr, h.2⟩

/-- A constant from which a cycle can be reached has no value. -/
lemma Scope.ReachesCycle.not_means {other : Key} {v : Int} (h : scope.ReachesCycle key other) :
    ¬ KeyMeans scope key v :=
  fun hmeans => not_transGen_self_of_acc (hmeans.acc_of_reaches h.1) h.2

/-- **An evaluation finds only certain cycles** while given constants are in progress, and if it succeeds,
the same constants are in progress as before. -/
def Confined (visiting : List Key) (Cyclic : Key → Prop) (x : Eval Int) : Prop :=
  ∀ memo, memo.visiting = visiting →
    (∀ v after, x.run memo = .ok (v, after) → after.visiting = visiting) ∧
    ∀ key span, x.run memo = .error ⟨.cycle key, span⟩ → Cyclic key

lemma composed_confined (Cyclic : Key → Prop) : Composed fun _ x _ => Confined visiting Cyclic x where
  value v memo hv := ⟨fun w after h => (run_pure_eq_ok.mp h).2 ▸ hv, nofun⟩
  failure _ fault span hf memo _ := by
    refine ⟨fun v after h => (run_failAt_eq_ok.mp h).elim, fun key place h => ?_⟩
    cases h
    cases hf
  sequence {_ _ x _ f _} hx hf memo hv := by
    obtain ⟨hkept, hcyclic⟩ := hx memo hv
    rw [StateT.run_bind]
    rcases hrun : x.run memo with failure | ⟨a, between⟩
    · refine ⟨nofun, fun key span h => ?_⟩
      cases h
      exact hcyclic key span hrun
    · exact hf a between (hkept a between hrun)

lemma Confined.mono {Cyclic Cyclic' : Key → Prop} {x : Eval Int} (h : Confined visiting Cyclic x)
    (hle : ∀ key, Cyclic key → Cyclic' key) : Confined visiting Cyclic' x :=
  fun memo hv => ⟨(h memo hv).1, fun key span hfail => hle key ((h memo hv).2 key span hfail)⟩

/-- **An evaluation finds only cycles which can be reached from its constant**, as long as each constant in
progress refers to that. -/
theorem confined_evaluateWith {depth : Nat} {key : Key} (span : Span)
    (hp : scope.Pending visiting depth key) :
    Confined visiting (scope.ReachesCycle key) (scope.evaluateWith depth key span) := by
  induction depth generalizing visiting key span with
  | zero => exact absurd rfl hp.depth_ne_zero
  | succ depth ih =>
      rintro memo rfl
      refine ⟨fun v after => visiting_evaluateWith, fun other place hfail => ?_⟩
      rw [evaluateWith_succ] at hfail
      rcases hknown : memo.values.lookup key with _ | known
      · rw [run_constant_of_unknown hknown] at hfail
        rcases hf : scope.candidates.find? key with _ | candidate
        · rw [hf] at hfail
          cases hfail
        · by_cases hin : key ∈ memo.visiting
          · simp only [hf, hin, if_true, Except.error.injEq, Failure.mk.injEq, Fault.cycle.injEq] at hfail
            obtain ⟨rfl, -⟩ := hfail
            exact ⟨.refl, hp.refers key hin⟩
          · -- the cycle was found inside the initializer, by a constant which `key` refers to
            have hinside := (composed_confined (scope.ReachesCycle key)).initializer_self
              fun next hnext span =>
                (ih span (hp.step hin hf hnext)).mono fun _ hcycle => hcycle.head ⟨candidate, hf, hnext⟩
            simp only [hf, hin, if_false] at hfail
            rcases hrun : (scope.initializer (scope.evaluateWith depth) candidate).run (memo.enter key) with
              failure | ⟨v, inside⟩
            · rw [hrun] at hfail
              cases hfail
              exact (hinside (memo.enter key) rfl).2 other place hrun
            · rw [hrun] at hfail
              cases hfail
      · rw [run_constant_of_known hknown] at hfail
        cases hfail

end EnumTables.Constants

namespace EnumTables.Group

open EnumTables.Constants EnumTables.Source EnumTables.Token Relation

variable {scope : Scope} {memo : Memo} {file : SourceFile} {name : String} {subject : Subject}

/-! ## Cycles of a group -/

/-- **A run over declarations fails** at one of them, in the memo which the ones before it leave. -/
lemma run_mapM_evaluated_eq_error {members : List Declaration} {failure : Failure} (hm : Idle scope memo)
    (h : (members.mapM (evaluated scope)).run memo = .error failure) :
    ∃ before member behind constants between, members = before ++ member :: behind ∧
      (before.mapM (evaluated scope)).run memo = .ok (constants, between) ∧ Idle scope between ∧
      (scope.evaluate member.key member.ident.span).run between = .error failure := by
  induction members generalizing memo with
  | nil => exact (run_pure_eq_error.mp h).elim
  | cons member rest ih =>
      rw [List.mapM_cons, run_bind_eq_error] at h
      rcases h with h | ⟨constant, between, hrun, h⟩
      · simp only [evaluated, run_bind_eq_error, run_pure_eq_error, and_false, exists_false, or_false] at h
        exact ⟨[], member, rest, [], memo, rfl, rfl, hm, h⟩
      · simp only [run_bind_eq_error, run_pure_eq_error, and_false, exists_false, or_false] at h
        obtain ⟨before, failing, behind, constants, after, rfl, hbefore, hidle, hfail⟩ :=
          ih (hm.lists hrun).2 h
        refine ⟨member :: before, failing, behind, constant :: constants, after, rfl, ?_, hidle, hfail⟩
        simp only [List.mapM_cons, run_bind_eq_ok, run_pure_eq_ok]
        exact ⟨constant, between, hrun, constants, after, hbefore, rfl, rfl⟩

/-- A type is not refused for a cycle. -/
lemma subject?_ne_cycle {key : Key} {span : Span} : subject? file name ≠ .error ⟨.cycle key, span⟩ := by
  unfold subject?
  rcases structNamed? file name with _ | item
  · nofun
  · rcases hg : item.generics with _ | place
    · rcases hw : wrapped? item with _ | repr
      · simp only [hg, hw]
        nofun
      · simp only [hg, hw]
        nofun
    · simp only [hg]
      nofun

/-- A group is refused for a cycle only by the run over its constants. -/
lemma run_eq_error_of_ofFile {key : Key} {span : Span} (h : ofFile file name = .error ⟨.cycle key, span⟩) :
    ∃ subject, subject? file name = .ok subject ∧
      ((membersOf (declarations file name)).mapM (evaluated (scopeOf file name subject))).run .empty =
        .error ⟨.cycle key, span⟩ := by
  rcases hs : subject? file name with failure | subject
  · rw [ofFile, hs] at h
    cases h
    exact (subject?_ne_cycle hs).elim
  · refine ⟨subject, rfl, ?_⟩
    by_cases hm : membersOf (declarations file name) = []
    · rw [ofFile, hs] at h
      simp [hm, bind, Except.bind, throw, throwThe, MonadExceptOf.throw] at h
    · rw [ofFile_eq_map hs hm, constantsOf] at h
      rcases hrun : ((membersOf (declarations file name)).mapM
          (evaluated (scopeOf file name subject))).run .empty with failure | ⟨constants, after⟩
      · rw [hrun] at h
        simpa [bind, Except.bind, Except.map] using h
      · rw [hrun] at h
        simp [bind, Except.bind, pure, Except.pure, Except.map] at h

/-- **Cycles are found, exactly.**  The evaluation of a constant leaves the constants inside it to the
evaluation itself, and it ends: with any memo, it never has more constants inside each other than are
declared, so that it does not matter what stands below that many.

If a group is refused for a cycle, the constant which is named lies on one, and can be reached from the
constant at which the evaluation stands: those before it were evaluated.  If a cycle can be reached from any
constant of the type, there is no group; and where there is no cycle, none is ever found. -/
theorem cycles_exact :
    (∀ scope : Scope, scope.evaluate = scope.constant scope.evaluate ∧
      ∀ n, scope.candidates.length < n → ∀ bottom, scope.constant^[n] bottom = scope.evaluate) ∧
    ∀ (file : SourceFile) (name : String),
      (∀ key span, ofFile file name = .error ⟨.cycle key, span⟩ →
        ∃ subject before member behind constants memo,
          subject? file name = .ok subject ∧
          membersOf (declarations file name) = before ++ member :: behind ∧
          (before.mapM (evaluated (scopeOf file name subject))).run .empty = .ok (constants, memo) ∧
          ((scopeOf file name subject).evaluate member.key member.ident.span).run memo =
            .error ⟨.cycle key, span⟩ ∧
          ReflTransGen (scopeOf file name subject).Refers member.key key ∧
          TransGen (scopeOf file name subject).Refers key key) ∧
      (∀ subject, subject? file name = .ok subject → ∀ member ∈ membersOf (declarations file name),
        ∀ key, ReflTransGen (scopeOf file name subject).Refers member.key key →
          TransGen (scopeOf file name subject).Refers key key →
          ∃ failure, ofFile file name = .error failure) ∧
      (∀ subject, subject? file name = .ok subject →
        (∀ key, ¬ TransGen (scopeOf file name subject).Refers key key) →
        ∀ key span, ofFile file name ≠ .error ⟨.cycle key, span⟩) := by
  have hfound : ∀ (file : SourceFile) (name : String) key span,
      ofFile file name = .error ⟨.cycle key, span⟩ →
      ∃ subject before member behind constants memo,
        subject? file name = .ok subject ∧
        membersOf (declarations file name) = before ++ member :: behind ∧
        (before.mapM (evaluated (scopeOf file name subject))).run .empty = .ok (constants, memo) ∧
        ((scopeOf file name subject).evaluate member.key member.ident.span).run memo =
          .error ⟨.cycle key, span⟩ ∧
        (scopeOf file name subject).ReachesCycle member.key key := by
    intro file name key span h
    obtain ⟨subject, hs, hrun⟩ := run_eq_error_of_ofFile h
    obtain ⟨before, member, behind, constants, memo, hsplit, hbefore, hidle, hfail⟩ :=
      run_mapM_evaluated_eq_error idle_empty hrun
    have hcycle : Confined [] ((scopeOf file name subject).ReachesCycle member.key)
        ((scopeOf file name subject).evaluate member.key member.ident.span) :=
      confined_evaluateWith member.ident.span (pending_nil member.key)
    exact ⟨subject, before, member, behind, constants, memo, hs, hsplit, hbefore, hfail,
      (hcycle memo hidle.visiting).2 key span hfail⟩
  refine ⟨fun scope => ⟨evaluate_eq_constant scope, fun n hn => iterate_constant hn⟩,
    fun file name => ⟨fun key span => hfound file name key span, ?_, ?_⟩⟩
  · intro subject hs member hmember key hreach hcycle
    rcases hgroup : ofFile file name with failure | group
    · exact ⟨failure, rfl⟩
    · obtain ⟨constants, hlists, -⟩ :=
        (ofFile_eq_ok_iff hs (List.ne_nil_of_mem hmember)).mp hgroup
      obtain ⟨v, hmeans⟩ := exists_forall₂_lists_iff.mp ⟨constants, hlists⟩ member hmember
      exact (Scope.ReachesCycle.not_means ⟨hreach, hcycle⟩ hmeans).elim
  · intro subject hs hacyclic key span h
    obtain ⟨found, -, member, -, -, -, hs', -, -, -, -, hcycle⟩ := hfound file name key span h
    obtain rfl : found = subject := Except.ok.inj (hs'.symm.trans hs)
    exact hacyclic key hcycle

/-- A file in which two constants are made of each other, behind one which is made of one of them. -/
def loopFile : SourceFile :=
  let span : Span := .nowhere
  let type : Expr := .path (.ofName "A") span
  { items := [
      .type ⟨.inherited, ⟨"A", span⟩, none, .tuple [.path (.ofName "u8")], span⟩,
      .const ⟨⟨"B", span⟩, .path (.ofName "A"), .call type (.path (.ofName "C") span) span⟩,
      .const ⟨⟨"C", span⟩, .path (.ofName "u8"), .field (.path (.ofName "D") span) 0 span⟩,
      .const ⟨⟨"D", span⟩, .path (.ofName "A"), .call type (.path (.ofName "C") span) span⟩],
    span }

theorem cycles_exact_loopFile :
    ofFile loopFile "A" = .error ⟨.cycle (.free "C"), .nowhere⟩ ∧
      ∃ subject, subject? loopFile "A" = .ok subject ∧
        TransGen (scopeOf loopFile "A" subject).Refers (.free "C") (.free "C") := by
  have hfail : ofFile loopFile "A" = .error ⟨.cycle (.free "C"), .nowhere⟩ := rfl
  obtain ⟨subject, -, -, -, -, -, hs, -, -, -, -, hcycle⟩ := (cycles_exact.2 loopFile "A").1 _ _ hfail
  exact ⟨hfail, subject, hs, hcycle⟩

end EnumTables.Group
