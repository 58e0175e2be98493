import EnumTables.Companion.Basic
import EnumTables.Proofs.Listing

/-!
# Constants which are declared again

A key stands for the last declaration with that key, be it one of the type or an integer.  A group lists a
constant for each declaration of its type, but with the value of its key; so it lists the value of the
initializer which the declaration has itself if nothing behind it is declared under the same key, and else
that of another initializer.

* `LastWith` — the declaration which a key stands for.
* `Declaration.Means` and `keyMeans_iff` — the value of a declaration, and of a key.
* `keyReference` — how the constant of a key is referred to beside its type, in different ways for different
  keys.
* `ListsLast` — what is listed for a declaration of the type.

The last section puts these together for the group of a file, with a file in which a constant is declared
again.
-/

namespace EnumTables.Group

open EnumTables.Companion EnumTables.Constants EnumTables.Number EnumTables.Source EnumTables.Token

/-! ## Last declarations -/

/-- **The last declaration with a key.** -/
def LastWith (found : List Declaration) (key : Key) (last : Declaration) : Prop :=
  ∃ before behind, found = before ++ last :: behind ∧ last.key = key ∧
    ∀ later ∈ behind, later.key ≠ key

variable {found : List Declaration} {key : Key} {last other : Declaration}

lemma find?_reverse_eq_some_iff :
    found.reverse.find? (·.key == key) = some last ↔ LastWith found key last := by
  simp only [List.find?_eq_some_iff_append, beq_iff_eq, Bool.not_eq_true', beq_eq_false_iff_ne]
  constructor
  · rintro ⟨hkey, behind, before, hfound, hbehind⟩
    refine ⟨before.reverse, behind.reverse, ?_, hkey,
      fun later hl => hbehind later (List.mem_reverse.mp hl)⟩
    rw [← List.reverse_reverse found, hfound]
    simp
  · rintro ⟨before, behind, rfl, hkey, hbehind⟩
    exact ⟨hkey, behind.reverse, before.reverse, by simp,
      fun later hl => hbehind later (List.mem_reverse.mp hl)⟩

/-- Only one declaration is the last with a key. -/
lemma LastWith.unique (h : LastWith found key last) (h' : LastWith found key other) : last = other := by
  rw [← find?_reverse_eq_some_iff] at h h'
  exact Option.some_inj.mp (h.symm.trans h')

/-! ## Values of declarations -/

/-- **The value of a declaration**: that of its own initializer, in the range of its own type. -/
def Declaration.Means (scope : Scope) (declaration : Declaration) (v : Int) : Prop :=
  match declaration.kind with
  | .group => GroupMeans scope declaration.value v
  | .scalar type => IntegerMeans scope declaration.value v ∧ type.holds v = true

/-- **A key has the value of the last declaration with that key.** -/
theorem keyMeans_iff {scope : Scope} (hscope : scope.candidates = candidatesOf found) {v : Int} :
    KeyMeans scope key v ↔ ∃ last, LastWith found key last ∧ last.Means scope v := by
  have hfind : ∀ candidate, scope.candidates.find? key = some candidate ↔
      ∃ last, LastWith found key last ∧ ⟨last.kind, last.value⟩ = candidate := by
    intro candidate
    simp only [hscope, find?_candidatesOf, Option.map_eq_some_iff, find?_reverse_eq_some_iff]
  constructor
  · intro h
    cases h with
    | group hf h =>
        obtain ⟨⟨_, _, _, _⟩, hlast, hcandidate⟩ := (hfind _).mp hf
        cases hcandidate
        exact ⟨_, hlast, h⟩
    | scalar hf h hv =>
        obtain ⟨⟨_, _, _, _⟩, hlast, hcandidate⟩ := (hfind _).mp hf
        cases hcandidate
        exact ⟨_, hlast, h, hv⟩
  · rintro ⟨⟨ident, associated, kind, value⟩, hlast, hmeans⟩
    have hf := (hfind _).mpr ⟨_, hlast, rfl⟩
    cases kind with
    | group => exact .group hf hmeans
    | scalar type => exact .scalar hf hmeans.1 hmeans.2

/-! ## Paths -/

/-- How the constant of a key is referred to beside its type. -/
def keyReference (type : String) : Key → Path
  | .free name => .ofName name
  | .associated name => ⟨false, [⟨type, .none⟩, ⟨name, .none⟩]⟩

/-- Different keys give different paths. -/
lemma keyReference_injective (type : String) : Function.Injective (keyReference type) := by
  intro key other h
  cases key <;> cases other <;> simp_all [keyReference, Path.ofName]

lemma reference_eq_keyReference (type : String) {declaration : Declaration} {constant : Constant}
    (hident : constant.ident = declaration.ident)
    (hassociated : constant.associated = declaration.associated) :
    Companion.reference type constant = keyReference type declaration.key := by
  rw [Companion.reference, Declaration.key, hident, hassociated]
  cases declaration.associated <;> rfl

/-- The paths of listed constants are those of their keys. -/
lemma map_reference_of_lists (type : String) {scope : Scope} {members : List Declaration}
    {constants : List Constant} (h : List.Forall₂ (Lists scope) members constants) :
    constants.map (Companion.reference type) = members.map (keyReference type ∘ Declaration.key) := by
  induction h with
  | nil => rfl
  | cons hl _ ih =>
      rw [List.map_cons, List.map_cons, ih, reference_eq_keyReference type hl.ident hl.associated]
      rfl

/-! ## Groups -/

/-- **What is listed for a declaration of the type**: its identifier, with the value of the last declaration
under its key. -/
structure ListsLast (scope : Scope) (found : List Declaration) (declaration : Declaration)
    (constant : Constant) : Prop where
  ident : constant.ident = declaration.ident
  associated : constant.associated = declaration.associated
  name : constant.name = declaration.ident.text
  value : ∃ last, LastWith found declaration.key last ∧ last.Means scope constant.value
  /-- The value is in the range of the wrapped integer if the last declaration is one of the type. -/
  inRange : ∀ last, LastWith found declaration.key last → last.kind = .group →
    scope.repr.holds constant.value = true
  /-- The value is that of the declaration itself if nothing behind it shares its key. -/
  own : LastWith found declaration.key declaration → GroupMeans scope declaration.value constant.value

lemma Lists.listsLast {scope : Scope} (hscope : scope.candidates = candidatesOf found)
    {declaration : Declaration} (hkind : declaration.kind = .group) {constant : Constant}
    (h : Lists scope declaration constant) : ListsLast scope found declaration constant := by
  obtain ⟨last, hlast, hmeans⟩ := (keyMeans_iff hscope).mp h.value
  refine ⟨h.ident, h.associated, h.name, ⟨last, hlast, hmeans⟩, ?_, ?_⟩
  · intro other hother hgroup
    obtain rfl := hlast.unique hother
    rw [Declaration.Means, hgroup] at hmeans
    exact hmeans.holds
  · intro hown
    obtain rfl := hlast.unique hown
    rwa [Declaration.Means, hkind] at hmeans

variable {file : SourceFile} {name : String} {group : Group}

/-- **A group lists the value of the last declaration under each key.**  There is an entry for each
declaration of the type, in order.  Its value is that of the declaration itself if nothing behind it is
declared under the same key, and it is in the range of the wrapped integer if what is declared last is of
the type.  The paths of the entries are distinct exactly if the keys of these declarations are. -/
theorem ofFile_lastDeclared (h : ofFile file name = .ok group) :
    ∃ subject, subject? file name = .ok subject ∧ group.repr = subject.repr ∧
      List.Forall₂ (ListsLast (scopeOf file name subject) (declarations file name))
        (membersOf (declarations file name)) group.constants ∧
      ((Companion.ofGroup group).list.Nodup ↔
        ((membersOf (declarations file name)).map Declaration.key).Nodup) := by
  obtain ⟨subject, hs, hm⟩ := exists_subject_of_ofFile h
  obtain ⟨constants, hl, rfl⟩ := (ofFile_eq_ok_iff hs hm).mp h
  refine ⟨subject, hs, rfl, ?_, ?_⟩
  · have hkind : ∀ member ∈ membersOf (declarations file name), member.kind = .group := by
      intro member hmember
      simpa [membersOf] using (List.mem_filter.mp hmember).2
    exact ((List.forall₂_and_left _ _).mpr ⟨hkind, hl⟩).imp
      fun _ _ ⟨hgroup, hlists⟩ => hlists.listsLast rfl hgroup
  · have hpaths : (Companion.ofGroup ⟨subject.item.visibility, subject.item.name, subject.repr,
        constants⟩).list =
          (membersOf (declarations file name)).map (keyReference subject.item.name.text ∘ Declaration.key) :=
      map_reference_of_lists _ hl
    rw [hpaths, ← List.map_map]
    exact List.nodup_map_iff (keyReference_injective _)

/-- A file in which a constant of the type `A` is declared again, as an integer. -/
def redeclaredFile : SourceFile :=
  let span : Span := { start := .origin, stop := .origin }
  { items := [
      .type ⟨.inherited, ⟨"A", span⟩, none, .tuple [.path (.ofName "u8")], span⟩,
      .const ⟨⟨"B", span⟩, .path (.ofName "A"),
        .call (.path (.ofName "A") span) (.integer ⟨1, ""⟩ span span) span⟩,
      .const ⟨⟨"B", span⟩, .path (.ofName "u32"), .integer ⟨300, ""⟩ span span⟩],
    span }

theorem ofFile_lastDeclared_redeclaredFile :
    ∃ group, ofFile redeclaredFile "A" = .ok group ∧
      ∃ subject, subject? redeclaredFile "A" = .ok subject ∧
        List.Forall₂ (ListsLast (scopeOf redeclaredFile "A" subject) (declarations redeclaredFile "A"))
          (membersOf (declarations redeclaredFile "A")) group.constants :=
  ⟨_, rfl, (ofFile_lastDeclared rfl).imp fun _ ⟨hs, _, hl, _⟩ => ⟨hs, hl⟩⟩

/-- An entry may have another value than its own declaration, and one which its type does not hold. -/
theorem redeclaredFile_differs :
    ∃ group subject, ofFile redeclaredFile "A" = .ok group ∧
      subject? redeclaredFile "A" = .ok subject ∧
      group.constants.map (·.value) = [300] ∧ group.repr.holds 300 = false ∧
      ∃ member ∈ declarations redeclaredFile "A", member.kind = .group ∧
        GroupMeans (scopeOf redeclaredFile "A" subject) member.value 1 :=
  ⟨_, _, rfl, rfl, rfl, rfl, _, .head _, rfl,
    .call rfl (.literal (by decide) (by decide)) rfl⟩

end EnumTables.Group
