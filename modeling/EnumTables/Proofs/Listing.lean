import EnumTables.Group.Collect
import EnumTables.Proofs.Evaluation
import Mathlib.Data.List.Induction
import Mathlib.Data.List.Nodup

/-!
# Groups list what their constants mean

A group is made of the constants of a file exactly if each of them has a value, and it lists these values
in the order in which the constants are declared.

* `find?_candidatesOf` — a key stands for the last declaration with that key.
* `find?_candidatesOf_eq_some_iff` — for the only one, if no two declarations share a key.
* `scopeOf` — the scope in which the constants of a file are evaluated.
* `Lists` — a constant lists what a declaration means.
* `run_mapM_evaluated_iff` — a run over declarations lists them one by one, although each of them is
  evaluated behind the ones before it.

The last section puts these together for the group of a file.
-/

namespace EnumTables.Group

open EnumTables.Constants EnumTables.Number EnumTables.Source EnumTables.Token

/-! ## What keys stand for -/

lemma candidatesOf_append (before : List Declaration) (last : Declaration) :
    candidatesOf (before ++ [last]) = (candidatesOf before).insert last.key ⟨last.kind, last.value⟩ := by
  simp only [candidatesOf, List.foldl_append, List.foldl_cons, List.foldl_nil]

/-- **A key stands for the last declaration with that key.** -/
theorem find?_candidatesOf (declarations : List Declaration) (key : Key) :
    (candidatesOf declarations).find? key =
      (declarations.reverse.find? (·.key == key)).map fun last => ⟨last.kind, last.value⟩ := by
  induction declarations using List.reverseRecOn with
  | nil => rfl
  | append_singleton before last ih =>
      rw [candidatesOf_append, Candidates.find?_insert, List.reverse_append, List.reverse_singleton,
        List.singleton_append, List.find?_cons]
      by_cases h : key = last.key
      · simp [h]
      · have hdiffer : (last.key == key) = false := by simpa using Ne.symm h
        simp only [h, if_false, hdiffer]
        exact ih

lemma find?_candidatesOf_of_unique {found : List Declaration} {declaration : Declaration}
    (hmem : declaration ∈ found)
    (hunique : ∀ other ∈ found, other.key = declaration.key → other = declaration) :
    (candidatesOf found).find? declaration.key = some ⟨declaration.kind, declaration.value⟩ := by
  rw [find?_candidatesOf]
  rcases hfind : found.reverse.find? (·.key == declaration.key) with _ | other
  · have hnone := List.find?_eq_none.mp hfind declaration (List.mem_reverse.mpr hmem)
    simp at hnone
  · have hother : other ∈ found := List.mem_reverse.mp (List.mem_of_find?_eq_some hfind)
    have hkey : other.key = declaration.key := by simpa using List.find?_some hfind
    rw [hfind, hunique other hother hkey, Option.map_some]

/-- **A key stands for the one declaration with that key**, if no two declarations share one. -/
lemma find?_candidatesOf_eq_some_iff {found : List Declaration}
    (hkeys : (found.map Declaration.key).Nodup) {key : Key} {candidate : Candidate} :
    (candidatesOf found).find? key = some candidate ↔
      ∃ declaration ∈ found, declaration.key = key ∧
        ⟨declaration.kind, declaration.value⟩ = candidate := by
  constructor
  · intro h
    rw [find?_candidatesOf, Option.map_eq_some_iff] at h
    obtain ⟨declaration, hfind, rfl⟩ := h
    refine ⟨declaration, List.mem_reverse.mp (List.mem_of_find?_eq_some hfind), ?_, rfl⟩
    simpa using List.find?_some hfind
  · rintro ⟨declaration, hmem, rfl, rfl⟩
    exact find?_candidatesOf_of_unique hmem fun other hother hkey =>
      List.inj_on_of_nodup_map hkeys hother hmem hkey

/-! ## Listed constants -/

/-- The scope in which the constants of a file are evaluated. -/
def scopeOf (file : SourceFile) (name : String) (subject : Subject) : Scope :=
  ⟨name, subject.repr, candidatesOf (declarations file name)⟩

/-- **A constant lists a declaration**: it has the identifier for its name, and the value which the key of
the declaration means. -/
structure Lists (scope : Scope) (declaration : Declaration) (constant : Constant) : Prop where
  ident : constant.ident = declaration.ident
  associated : constant.associated = declaration.associated
  name : constant.name = declaration.ident.text
  value : KeyMeans scope declaration.key constant.value

variable {scope : Scope} {memo after : Memo}

lemma exists_lists_iff {declaration : Declaration} :
    (∃ constant, Lists scope declaration constant) ↔ ∃ v, KeyMeans scope declaration.key v := by
  constructor
  · rintro ⟨constant, h⟩
    exact ⟨constant.value, h.value⟩
  · rintro ⟨v, h⟩
    exact ⟨⟨declaration.ident, declaration.associated, v, declaration.ident.text⟩, rfl, rfl, rfl, h⟩

/-- Declarations can be listed if each of them has a value. -/
lemma exists_forall₂_lists_iff {members : List Declaration} :
    (∃ constants, List.Forall₂ (Lists scope) members constants) ↔
      ∀ member ∈ members, ∃ v, KeyMeans scope member.key v := by
  induction members with
  | nil => simp
  | cons member rest ih =>
      rw [List.forall_mem_cons, ← ih, ← exists_lists_iff]
      constructor
      · rintro ⟨_, hl | ⟨hl, hrest⟩⟩
        exact ⟨⟨_, hl⟩, _, hrest⟩
      · rintro ⟨⟨constant, hl⟩, constants, hrest⟩
        exact ⟨constant :: constants, .cons hl hrest⟩

/-- Constants are listed in the order of their declarations. -/
lemma map_eq_of_lists {members : List Declaration} {constants : List Constant}
    (h : List.Forall₂ (Lists scope) members constants) :
    constants.map (fun constant => (constant.ident, constant.associated)) =
      members.map fun member => (member.ident, member.associated) := by
  induction h with
  | nil => rfl
  | cons hl _ ih => rw [List.map_cons, List.map_cons, ih, hl.ident, hl.associated]

lemma run_evaluated_eq_ok {declaration : Declaration} {constant : Constant} :
    (evaluated scope declaration).run memo = .ok (constant, after) ↔
      ∃ v, (scope.evaluate declaration.key declaration.ident.span).run memo = .ok (v, after) ∧
        constant = ⟨declaration.ident, declaration.associated, v, declaration.ident.text⟩ := by
  simp only [evaluated, run_bind_eq_ok, run_pure_eq_ok]
  constructor
  · rintro ⟨v, _, hrun, rfl, rfl⟩
    exact ⟨v, hrun, rfl⟩
  · rintro ⟨v, hrun, rfl⟩
    exact ⟨v, after, hrun, rfl, rfl⟩

/-- A memo in which an evaluation may begin. -/
structure Idle (scope : Scope) (memo : Memo) : Prop where
  sound : scope.Sound memo
  visiting : memo.visiting = []

lemma idle_empty : Idle scope .empty := ⟨sound_empty, rfl⟩

/-- What is evaluated is listed, and leaves a memo in which the next evaluation may begin. -/
lemma Idle.lists (hm : Idle scope memo) {declaration : Declaration} {constant : Constant}
    (h : (evaluated scope declaration).run memo = .ok (constant, after)) :
    Lists scope declaration constant ∧ Idle scope after := by
  obtain ⟨v, hrun, rfl⟩ := run_evaluated_eq_ok.mp h
  obtain ⟨hmeans, hs, hv⟩ := evaluateWith_truthful scope.depth hm.sound hrun
  exact ⟨⟨rfl, rfl, rfl, hmeans⟩, hs, hv.trans hm.visiting⟩

lemma Idle.exists_run (hm : Idle scope memo) {declaration : Declaration} {constant : Constant}
    (h : Lists scope declaration constant) :
    ∃ after, (evaluated scope declaration).run memo = .ok (constant, after) := by
  obtain ⟨after, hrun⟩ := (evaluate_iff hm.sound hm.visiting).mpr h.value
  refine ⟨after, run_evaluated_eq_ok.mpr ⟨constant.value, hrun, ?_⟩⟩
  obtain ⟨ident, associated, value, name⟩ := constant
  obtain ⟨rfl, rfl, rfl, -⟩ := h
  rfl

/-- **A run over declarations lists them one by one**, whatever was evaluated before. -/
theorem run_mapM_evaluated_iff {members : List Declaration} {constants : List Constant}
    (hm : Idle scope memo) :
    (∃ after, (members.mapM (evaluated scope)).run memo = .ok (constants, after)) ↔
      List.Forall₂ (Lists scope) members constants := by
  induction members generalizing memo constants with
  | nil =>
      simp only [List.mapM_nil, run_pure_eq_ok, List.forall₂_nil_left_iff, exists_and_left,
        exists_eq, and_true]
  | cons member rest ih =>
      simp only [List.mapM_cons, run_bind_eq_ok, run_pure_eq_ok]
      constructor
      · rintro ⟨after, constant, between, hrun, others, _, hrest, rfl, rfl⟩
        obtain ⟨hl, hbetween⟩ := hm.lists hrun
        exact .cons hl ((ih hbetween).mp ⟨_, hrest⟩)
      · rintro (_ | ⟨hl, hrest⟩)
        obtain ⟨between, hrun⟩ := hm.exists_run hl
        obtain ⟨after, hrun'⟩ := (ih (hm.lists hrun).2).mpr hrest
        exact ⟨after, _, between, hrun, _, after, hrun', rfl, rfl⟩

/-! ## Groups -/

lemma constantsOf_eq_ok_iff {members : List Declaration} {constants : List Constant} :
    constantsOf scope members = .ok constants ↔ List.Forall₂ (Lists scope) members constants := by
  rw [← run_mapM_evaluated_iff idle_empty, constantsOf]
  rcases (members.mapM (evaluated scope)).run Memo.empty with failure | ⟨listed, after⟩
  · simp [bind, Except.bind]
  · simp [bind, Except.bind, pure, Except.pure]

variable {file : SourceFile} {name : String} {subject : Subject}

/-- The type of a group is the first struct of the name, if that is fit for it. -/
lemma subject?_eq_ok_iff :
    subject? file name = .ok subject ↔
      structNamed? file name = some subject.item ∧ subject.item.generics = none ∧
        wrapped? subject.item = some subject.repr := by
  obtain ⟨found, repr⟩ := subject
  unfold subject?
  rcases structNamed? file name with _ | item
  · simp [throw, throwThe, MonadExceptOf.throw]
  · rcases hg : item.generics with _ | span
    · rcases hw : wrapped? item with _ | primitive
      · simp only [hg, hw, throw, throwThe, MonadExceptOf.throw, reduceCtorEq, Option.some_inj, false_iff]
        rintro ⟨rfl, -, hfound⟩
        simp [hw] at hfound
      · simp only [hg, hw, pure, Except.pure, Except.ok.injEq, Subject.mk.injEq, Option.some_inj]
        constructor
        · rintro ⟨rfl, rfl⟩
          exact ⟨rfl, hg, hw⟩
        · rintro ⟨rfl, -, hfound⟩
          exact ⟨rfl, Option.some_inj.mp (hw.symm.trans hfound)⟩
    · simp only [hg, throw, throwThe, MonadExceptOf.throw, reduceCtorEq, Option.some_inj, false_iff]
      rintro ⟨rfl, hfound, -⟩
      simp [hg] at hfound

/-- The group of a fit type with constants is made of what its constants come to. -/
lemma ofFile_eq_map (hs : subject? file name = .ok subject)
    (hm : membersOf (declarations file name) ≠ []) :
    ofFile file name =
      (constantsOf (scopeOf file name subject) (membersOf (declarations file name))).map fun constants =>
        ⟨subject.item.visibility, subject.item.name, subject.repr, constants⟩ := by
  unfold ofFile
  rw [hs]
  simp only [bind, Except.bind, scopeOf]
  -- by `hm`, the type is not refused for having no constants
  rcases constantsOf ⟨name, subject.repr, candidatesOf (declarations file name)⟩
      (membersOf (declarations file name)) with failure | constants
  · rfl
  · rfl

lemma ofFile_eq_ok_iff (hs : subject? file name = .ok subject)
    (hm : membersOf (declarations file name) ≠ []) {group : Group} :
    ofFile file name = .ok group ↔
      ∃ constants,
        List.Forall₂ (Lists (scopeOf file name subject)) (membersOf (declarations file name)) constants ∧
        group = ⟨subject.item.visibility, subject.item.name, subject.repr, constants⟩ := by
  rw [ofFile_eq_map hs hm]
  simp only [← constantsOf_eq_ok_iff]
  rcases constantsOf (scopeOf file name subject) (membersOf (declarations file name)) with
    failure | constants
  · simp only [Except.map, reduceCtorEq, false_and, exists_false]
  · simp only [Except.map, Except.ok.injEq, exists_eq_left']
    rw [eq_comm]

/-- A group is found for a fit type with constants only. -/
lemma exists_subject_of_ofFile {group : Group} (h : ofFile file name = .ok group) :
    ∃ subject, subject? file name = .ok subject ∧ membersOf (declarations file name) ≠ [] := by
  unfold ofFile at h
  rcases hs : subject? file name with failure | subject
  · rw [hs] at h
    cases h
  · refine ⟨subject, rfl, ?_⟩
    intro hm
    rw [hs] at h
    simp only [hm, bind, Except.bind, throw, throwThe, MonadExceptOf.throw, reduceCtorEq] at h

/-- **The group of a file lists what its constants mean.**  If the type is fit for a group and has
constants, the group is found exactly if all of them have values; it is then made of the parts of the type
and lists the constants in order, each under its identifier and with its value; and no constant has more
than one. -/
theorem ofFile_correct (hs : subject? file name = .ok subject)
    (hm : membersOf (declarations file name) ≠ []) :
    ((∃ group, ofFile file name = .ok group) ↔
      ∀ member ∈ membersOf (declarations file name),
        ∃ v, KeyMeans (scopeOf file name subject) member.key v) ∧
    (∀ group, ofFile file name = .ok group ↔
      (group.visibility = subject.item.visibility ∧ group.ident = subject.item.name ∧
        group.repr = subject.repr ∧
        List.Forall₂ (Lists (scopeOf file name subject)) (membersOf (declarations file name))
          group.constants)) ∧
    (∀ key v w, KeyMeans (scopeOf file name subject) key v → KeyMeans (scopeOf file name subject) key w →
      v = w) := by
  refine ⟨?_, ?_, fun key v w hv hw => hv.unique hw⟩
  · rw [← exists_forall₂_lists_iff]
    constructor
    · rintro ⟨group, h⟩
      obtain ⟨constants, hl, -⟩ := (ofFile_eq_ok_iff hs hm).mp h
      exact ⟨constants, hl⟩
    · rintro ⟨constants, hl⟩
      exact ⟨_, (ofFile_eq_ok_iff hs hm).mpr ⟨constants, hl, rfl⟩⟩
  · intro group
    rw [ofFile_eq_ok_iff hs hm]
    constructor
    · rintro ⟨constants, hl, rfl⟩
      exact ⟨rfl, rfl, rfl, hl⟩
    · rintro ⟨hvis, hident, hrepr, hl⟩
      refine ⟨group.constants, hl, ?_⟩
      rw [← hvis, ← hident, ← hrepr]

/-- A file in which a constant of the type `A` is made of an integer which is declared behind it. -/
def forwardFile : SourceFile :=
  let span : Span := { start := .origin, stop := .origin }
  { items := [
      .type ⟨.inherited, ⟨"A", span⟩, none, .tuple [.path (.ofName "u8")], span⟩,
      .const ⟨⟨"B", span⟩, .path (.ofName "A"),
        .call (.path (.ofName "A") span) (.path (.ofName "C") span) span⟩,
      .const ⟨⟨"C", span⟩, .path (.ofName "u8"), .integer ⟨200, ""⟩ span span⟩],
    span }

theorem ofFile_correct_forwardFile :
    ∃ subject, subject? forwardFile "A" = .ok subject ∧ membersOf (declarations forwardFile "A") ≠ [] ∧
      ∃ group, ofFile forwardFile "A" = .ok group := by
  refine ⟨_, rfl, by decide, (ofFile_correct rfl (by decide)).1.mpr ?_⟩
  intro member hmember
  obtain rfl := List.mem_singleton.mp hmember
  exact ⟨200, .group rfl (.call rfl
    (.path rfl rfl rfl (.scalar rfl (.literal (by decide) (by decide)) rfl)) rfl)⟩

end EnumTables.Group
