import EnumTables.Proofs.GuardReading
import EnumTables.Proofs.Listing
import EnumTables.Proofs.Naming
import Mathlib.Data.List.Pairwise

/-!
# What guards guard

A guard is made from one file and stands beside another one, into which that file may have changed.  It
holds there exactly if the constants still have the values which they had.

* `Holds` — an assertion holds among the constants of a file.
* `holds_iff` — whether it does, for a constant of which there is one.
* `guard_iff` — all assertions of a guard.
-/

namespace EnumTables.Constants

open EnumTables.Companion EnumTables.Group EnumTables.Number EnumTables.Source EnumTables.Token

variable {scope : Scope} {v : Int}

/-! ## The sides of a comparison -/

/-- An integer expression is evaluated, with nothing known before, exactly to its value. -/
lemma integer_iff {e : Expr} :
    (∃ after, (scope.integer scope.evaluate e).run .empty = .ok (v, after)) ↔ IntegerMeans scope e v := by
  constructor
  · rintro ⟨after, hrun⟩
    exact (integer_sound (evaluateWith_truthful scope.depth) sound_empty hrun).1
  · intro hmeans
    have hanswers : scope.Answers scope.evaluate (fun memo => scope.Sound memo ∧ memo.visiting = [])
        (integerReferences scope.type e) := by
      rintro key - v hv span memo ⟨hm, hvisiting⟩
      obtain ⟨after, hrun⟩ := (evaluate_iff hm hvisiting).mpr hv
      obtain ⟨-, hs, hv'⟩ := evaluateWith_truthful scope.depth hm hrun
      exact ⟨after, hrun, hs, hv'.trans hvisiting⟩
    obtain ⟨after, hrun, -⟩ := integer_complete hmeans hanswers ⟨sound_empty, rfl⟩
    exact ⟨after, hrun⟩

lemma integerMeans_congr {e e' : Expr} (h : e.placeless = e'.placeless) :
    IntegerMeans scope e v ↔ IntegerMeans scope e' v :=
  have halike : scope.Alike scope := ⟨rfl, rfl, fun _ => rfl⟩
  ⟨fun hmeans => hmeans.alike halike h, fun hmeans => hmeans.alike halike h.symm⟩

lemma literalExprOf_placeless (type : Primitive) (value : Int) :
    (literalExprOf type value).placeless = literalExprOf type value := by
  unfold literalExprOf
  split_ifs <;> rfl

lemma fits_natAbs {type : Primitive} {value : Int} (h : type.holds value = true) :
    Wide.Fits value.natAbs := by
  rw [Primitive.holds_iff] at h
  rw [Wide.fits_iff]
  cases type <;>
    simp [Primitive.least, Primitive.greatest, Primitive.isSigned, Primitive.bits, twoPow_eq] at h <;>
    omega

lemma suffixAllows_label {type : Primitive} : SuffixAllows type.label v ↔ type.holds v = true := by
  simp [SuffixAllows, Primitive.ofLabel?_label]

lemma means_literal {magnitude : Nat} {suffix : String} {place span : Span} :
    IntegerMeans scope (.integer ⟨magnitude, suffix⟩ place span) v ↔
      v = magnitude ∧ Wide.Fits magnitude ∧ SuffixAllows suffix magnitude := by
  constructor
  · intro h
    cases h with
    | literal hfits hsuffix => exact ⟨rfl, hfits, hsuffix⟩
  · rintro ⟨rfl, hfits, hsuffix⟩
    exact .literal hfits hsuffix

lemma means_negLiteral {magnitude : Nat} {suffix : String} {place inner span : Span} :
    IntegerMeans scope (.neg (.integer ⟨magnitude, suffix⟩ place inner) span) v ↔
      v = -magnitude ∧ Wide.Fits magnitude ∧ SuffixAllows suffix (-magnitude) := by
  constructor
  · intro h
    cases h with
    | negLiteral hfits hsuffix => exact ⟨rfl, hfits, hsuffix⟩
    | neg hliteral _ _ => cases hliteral
  · rintro ⟨rfl, hfits, hsuffix⟩
    exact .negLiteral hfits hsuffix

/-- **The literal of a value means this value**, if the type has it, and else nothing. -/
theorem means_literalExprOf {type : Primitive} {value : Int} :
    IntegerMeans scope (literalExprOf type value) v ↔ v = value ∧ type.holds value = true := by
  have hfits : type.holds value = true → Wide.Fits value.natAbs := fits_natAbs
  by_cases hneg : value < 0
  · have hvalue : -(value.natAbs : Int) = value := by omega
    simp only [literalExprOf, hneg, if_true]
    rw [means_negLiteral, suffixAllows_label, hvalue, and_iff_right_of_imp hfits]
  · have hvalue : (value.natAbs : Int) = value := by omega
    simp only [literalExprOf, hneg, if_false]
    rw [means_literal, suffixAllows_label]
    rw [hvalue] at hfits ⊢
    rw [and_iff_right_of_imp hfits]

/-! ## References -/

/-- The key of a listed constant. -/
def keyOf (constant : Constant) : Key :=
  if constant.associated then .associated constant.ident.text else .free constant.ident.text

lemma not_mem_placeWords {name : String} (hname : name ∉ reservedWords) : name ∉ placeWords := by
  have hsub : placeWords ⊆ reservedWords := by decide
  exact fun hplace => hname (hsub hplace)

/-- **What refers to a constant is resolved to its key**, whether it is associated or not. -/
lemma keyOf?_reference {type : String} {constant : Constant} (htype : type ∉ placeWords)
    (hname : constant.ident.text ∉ placeWords) :
    keyOf? type (reference type constant) = some (keyOf constant) := by
  obtain ⟨⟨name, place⟩, _ | _, value, listed⟩ := constant
  · simp only at hname
    simp [keyOf?, reference, Path.ofName, Path.names, hname, keyOf]
  · simp [keyOf?, reference, Path.names, htype, keyOf]

lemma means_field {path : Path} {key : Key} (inner span : Span) (hkey : keyOf? scope.type path = some key)
    (hscalar : scope.isScalar key = false) :
    IntegerMeans scope (.field (.path path inner) 0 span) v ↔ KeyMeans scope key v := by
  constructor
  · intro h
    cases h with
    | field hkey' _ hmeans =>
        rw [hkey, Option.some_inj] at hkey'
        exact hkey' ▸ hmeans
  · exact .field hkey hscalar

/-! ## Assertions -/

/-- **An assertion holds** among the constants of a scope: both sides of its comparison are evaluated, and
to the same value. -/
def Holds (scope : Scope) (sides : Expr × Expr) : Prop :=
  ∃ v, (∃ after, (scope.integer scope.evaluate sides.1).run .empty = .ok (v, after)) ∧
    ∃ after, (scope.integer scope.evaluate sides.2).run .empty = .ok (v, after)

/-- An assertion about a constant holds if the constant has the value, as long as its type has it, too. -/
theorem holds_iff {constant : Constant} {sides : Expr × Expr} (htype : scope.type ∉ reservedWords)
    (hname : constant.ident.text ∉ reservedWords) (hscalar : scope.isScalar (keyOf constant) = false)
    (hsides : Compares scope.type scope.repr constant sides) :
    Holds scope sides ↔
      KeyMeans scope (keyOf constant) constant.value ∧ scope.repr.holds constant.value = true := by
  have hkey := keyOf?_reference (not_mem_placeWords htype) (not_mem_placeWords hname)
  have hleft : ∀ v, IntegerMeans scope sides.1 v ↔ KeyMeans scope (keyOf constant) v := by
    intro v
    rw [← means_field .nowhere .nowhere hkey hscalar]
    exact integerMeans_congr hsides.1
  have hright : ∀ v, IntegerMeans scope sides.2 v ↔
      v = constant.value ∧ scope.repr.holds constant.value = true := by
    intro v
    have hliteral := hsides.2.trans (literalExprOf_placeless scope.repr constant.value).symm
    exact (integerMeans_congr hliteral).trans means_literalExprOf
  simp only [Holds, integer_iff, hleft, hright]
  constructor
  · rintro ⟨v, hmeans, rfl, hholds⟩
    exact ⟨hmeans, hholds⟩
  · rintro ⟨hmeans, hholds⟩
    exact ⟨_, hmeans, rfl, hholds⟩

end EnumTables.Constants

namespace EnumTables.Group

open EnumTables.Constants EnumTables.Companion EnumTables.Number EnumTables.Source EnumTables.Token

variable {text name : String} {file other : SourceFile} {group current : Group}

/-! ## Names -/

lemma structNamed?_eq_some {item : TypeItem} (h : structNamed? file name = some item) :
    .type item ∈ file.items ∧ item.name.text = name := by
  obtain ⟨found, hfound, hitem⟩ := List.exists_of_findSome?_eq_some h
  cases found with
  | type found =>
      simp only [Option.ite_none_right_eq_some, Option.some_inj] at hitem
      obtain ⟨hname, rfl⟩ := hitem
      exact ⟨hfound, hname⟩
  | const | impl | other => cases hitem

/-- The constants of a file which count are called by identifiers, or have no name. -/
lemma wellNamed_of_mem_declarations (hfile : fileOf text = .ok file) {declaration : Declaration}
    (h : declaration ∈ declarations file name) :
    declaration.ident.text = "_" ∨ declaration.ident.text ∉ reservedWords := by
  obtain ⟨item, hitem, hmem⟩ := List.mem_flatMap.mp h
  have hnamed := fileOf_wellNamed hfile item hitem
  cases item with
  | const item =>
      obtain ⟨kind, -, rfl⟩ := Option.map_eq_some_iff.mp (Option.mem_toList.mp hmem)
      exact hnamed
  | impl block =>
      simp only [itemDeclarations] at hmem
      split_ifs at hmem
      · obtain ⟨item, hitem, hsome⟩ := List.mem_filterMap.mp hmem
        obtain ⟨kind, -, rfl⟩ := Option.map_eq_some_iff.mp hsome
        exact hnamed item hitem
      · cases hmem
  | type | other => cases hmem

/-! ## Guards -/

/-- The scope in which the constants of a file are read beside a group. -/
def scopeBeside (file : SourceFile) (name : String) (group : Group) : Scope :=
  ⟨name, group.repr, candidatesOf (declarations file name)⟩

/-- A group lists the constants of its type in the scope of its file. -/
lemma lists_of_ofFile (h : ofFile file name = .ok group) :
    List.Forall₂ (Lists (scopeBeside file name group)) (membersOf (declarations file name))
      group.constants := by
  obtain ⟨subject, hs, hm⟩ := exists_subject_of_ofFile h
  obtain ⟨constants, hlists, rfl⟩ := (ofFile_eq_ok_iff hs hm).mp h
  exact hlists

/-- A group is called by the name of its type, which is an identifier. -/
lemma name_of_ofFile (hfile : fileOf text = .ok file) (h : ofFile file name = .ok group) :
    group.ident.text = name ∧ name ∉ reservedWords := by
  obtain ⟨subject, hs, hm⟩ := exists_subject_of_ofFile h
  obtain ⟨constants, -, rfl⟩ := (ofFile_eq_ok_iff hs hm).mp h
  obtain ⟨hmem, hname⟩ := structNamed?_eq_some (subject?_eq_ok_iff.mp hs).1
  exact ⟨hname, hname ▸ fileOf_wellNamed hfile _ hmem⟩

section

variable {α β : Type} {R : α → β → Prop} {l : List α} {l' : List β}

lemma exists_of_forall₂ (h : List.Forall₂ R l l') : ∀ b ∈ l', ∃ a ∈ l, R a b := by
  induction h with
  | nil => simp
  | @cons a b l l' hab _ ih =>
      rw [List.forall_mem_cons]
      refine ⟨⟨a, List.mem_cons_self .., hab⟩, fun c hc => ?_⟩
      obtain ⟨d, hd, hR⟩ := ih c hc
      exact ⟨d, List.mem_cons_of_mem _ hd, hR⟩

lemma forall_mem_iff_of_forall₂ {P : α → Prop} {Q : β → Prop} (h : List.Forall₂ R l l')
    (hiff : ∀ a ∈ l, ∀ b, R a b → (Q b ↔ P a)) : (∀ b ∈ l', Q b) ↔ ∀ a ∈ l, P a := by
  induction h with
  | nil => simp
  | @cons a b l l' hab _ ih =>
      obtain ⟨ha, hl⟩ := List.forall_mem_cons.mp hiff
      rw [List.forall_mem_cons, List.forall_mem_cons, ha b hab, ih hl]

end

lemma Lists.key_eq {scope : Scope} {declaration : Declaration} {constant : Constant}
    (h : Lists scope declaration constant) : declaration.key = keyOf constant := by
  rw [Declaration.key, keyOf, h.ident, h.associated]

/-- **No constant of the type shares its key**, neither with another one nor with an integer. -/
def Unshared (found : List Declaration) : Prop :=
  found.Pairwise fun a b => a.kind = .group ∨ b.kind = .group → a.key ≠ b.key

instance : DecidablePred Unshared := fun found =>
  inferInstanceAs (Decidable (found.Pairwise fun a b => a.kind = .group ∨ b.kind = .group → a.key ≠ b.key))

lemma Unshared.eq_of_key_eq {found : List Declaration} (h : Unshared found) {member other : Declaration}
    (hmember : member ∈ membersOf found) (hother : other ∈ found) (hkey : other.key = member.key) :
    other = member := by
  obtain ⟨hmem, hkind⟩ := List.mem_filter.mp hmember
  have : Std.Symm fun a b : Declaration => a.kind = .group ∨ b.kind = .group → a.key ≠ b.key :=
    ⟨fun _ _ hdiffer hkinds => (hdiffer hkinds.symm).symm⟩
  by_contra hne
  exact List.Pairwise.forall h hother hmem hne (.inr (beq_iff_eq.mp hkind)) hkey

/-- A listed constant which has a name is called by an identifier. -/
lemma notReserved_of_mem (hfile : fileOf text = .ok file) (h : ofFile file name = .ok group)
    {constant : Constant} (hmem : constant ∈ group.constants) (hnamed : constant.ident.text ≠ "_") :
    constant.ident.text ∉ reservedWords := by
  obtain ⟨member, hmember, hlists⟩ := exists_of_forall₂ (lists_of_ofFile h) constant hmem
  have hdeclared := wellNamed_of_mem_declarations hfile (List.mem_filter.mp hmember).1
  rw [← hlists.ident] at hdeclared
  exact hdeclared.resolve_left hnamed

/-- A listed constant has one value, which is one of the integer, and is no integer itself. -/
lemma listed_of_mem (h : ofFile other name = .ok current) (hkeys : Unshared (declarations other name))
    {constant : Constant} (hmem : constant ∈ current.constants) :
    KeyMeans (scopeBeside other name current) (keyOf constant) constant.value ∧
      (scopeBeside other name current).isScalar (keyOf constant) = false ∧
      current.repr.holds constant.value = true := by
  obtain ⟨member, hmember, hlists⟩ := exists_of_forall₂ (lists_of_ofFile h) constant hmem
  obtain ⟨hdeclared, hkind⟩ := List.mem_filter.mp hmember
  have hfind : (scopeBeside other name current).candidates.find? (keyOf constant) =
      some ⟨.group, member.value⟩ := by
    rw [← hlists.key_eq, ← beq_iff_eq.mp hkind]
    exact find?_candidatesOf_of_unique hdeclared fun _ => hkeys.eq_of_key_eq hmember
  have hmeans := hlists.value
  rw [hlists.key_eq] at hmeans
  refine ⟨hmeans, ?_, hmeans.holds_of_isGroup (isGroup_iff.mpr ⟨_, hfind⟩)⟩
  rw [Scope.isScalar, Candidates.kind?, hfind]
  rfl

lemma value_eq_of_keyOf_eq (h : ofFile other name = .ok current)
    (hkeys : Unshared (declarations other name)) {constant shared : Constant}
    (hmem : constant ∈ current.constants) (hshared : shared ∈ current.constants)
    (hkey : keyOf shared = keyOf constant) : shared.value = constant.value := by
  have hmeans := (listed_of_mem h hkeys hshared).1
  rw [hkey] at hmeans
  exact hmeans.unique (listed_of_mem h hkeys hmem).1

/-- **An assertion holds exactly if the constant has the value which it had.** -/
lemma holds_iff_value_eq (htype : name ∉ reservedWords) (hcurrent : ofFile other name = .ok current)
    (hkeys : Unshared (declarations other name)) {constant shared : Constant}
    (hname : constant.ident.text ∉ reservedWords) (hshared : shared ∈ current.constants)
    (hkey : keyOf shared = keyOf constant) {sides : Expr × Expr}
    (hsides : Compares name current.repr constant sides) :
    Holds (scopeBeside other name current) sides ↔ shared.value = constant.value := by
  obtain ⟨hmeans, hscalar, hholds⟩ := listed_of_mem hcurrent hkeys hshared
  rw [hkey] at hmeans hscalar
  refine (holds_iff htype hname hscalar hsides).trans ⟨?_, ?_⟩
  · rintro ⟨hvalue, -⟩
    exact hmeans.unique hvalue
  · intro hvalue
    rw [← hvalue]
    exact ⟨hmeans, hholds⟩

/-- **A guard holds exactly as long as no constant changes its value.**  A guard is made for a group, and
read beside a file with a group of the same type around the same integer, which has all constants of the
first one; no constant of the type shares its key there.  Then the guard compares the constants in the order
in which they were declared, each with its value, and all comparisons hold if and only if each constant has
the same value in both groups.  They hold if the file has not changed. -/
theorem guard_iff (hfile : fileOf text = .ok file) (hgroup : ofFile file name = .ok group)
    (hcurrent : ofFile other name = .ok current) (hrepr : group.repr = current.repr)
    (hkeys : Unshared (declarations other name))
    (hshared : ∀ constant ∈ group.constants, constant.ident.text ≠ "_" ∧
      ∃ shared ∈ current.constants, keyOf shared = keyOf constant) :
    (ofGroup group).guard = group.constants.map (assertion name) ∧
    group.constants.map (·.ident) = (membersOf (declarations file name)).map (·.ident) ∧
    ∃ found, readAll (ofGroup group).guardCode (·.readGuard) = .ok found ∧
      List.Forall₂ (Compares name group.repr) group.constants found ∧
      ((∀ sides ∈ found, Holds (scopeBeside other name current) sides) ↔
        ∀ constant ∈ group.constants, ∀ shared ∈ current.constants, keyOf shared = keyOf constant →
          shared.value = constant.value) ∧
      (other = file → ∀ sides ∈ found, Holds (scopeBeside other name current) sides) := by
  obtain ⟨htext, htype⟩ := name_of_ofFile hfile hgroup
  have hnames : ∀ constant ∈ group.constants, constant.ident.text ∉ reservedWords :=
    fun constant hmem => notReserved_of_mem hfile hgroup hmem (hshared constant hmem).1
  obtain ⟨found, hread, hfound⟩ := readGuard_guardCode (htext ▸ htype) hnames
  rw [htext] at hfound
  have hall : (∀ sides ∈ found, Holds (scopeBeside other name current) sides) ↔
      ∀ constant ∈ group.constants, ∀ shared ∈ current.constants, keyOf shared = keyOf constant →
        shared.value = constant.value := by
    refine forall_mem_iff_of_forall₂ hfound fun constant hconstant sides hsides => ?_
    rw [hrepr] at hsides
    have hiff : ∀ shared ∈ current.constants, keyOf shared = keyOf constant →
        (Holds (scopeBeside other name current) sides ↔ shared.value = constant.value) :=
      fun shared hmem hkey =>
        holds_iff_value_eq htype hcurrent hkeys (hnames constant hconstant) hmem hkey hsides
    obtain ⟨-, shared, hmem, hkey⟩ := hshared constant hconstant
    exact ⟨fun hholds other hother hsame => (hiff other hother hsame).mp hholds,
      fun hvalues => (hiff shared hmem hkey).mpr (hvalues shared hmem hkey)⟩
  refine ⟨?_, ?_, found, hread, hfound, hall, ?_⟩
  · rw [ofGroup, htext]
  · have hidents := congrArg (List.map Prod.fst) (map_eq_of_lists (lists_of_ofFile hgroup))
    simpa only [List.map_map, Function.comp_def] using hidents
  · rintro rfl
    obtain rfl : current = group := Except.ok.inj (hcurrent.symm.trans hgroup)
    exact hall.mpr fun constant hconstant shared => value_eq_of_keyOf_eq hgroup hkeys hconstant

/-- A text with an associated constant at the lower end of its type. -/
def lowestText : String := "struct A(i8); impl A { const B: Self = A(-128); }"

/-- The file of the text. -/
def lowestFile : SourceFile := (fileOf lowestText).toOption.getD ⟨[], .nowhere⟩

/-- The group of the file. -/
def lowestGroup : Group :=
  (ofFile lowestFile "A").toOption.getD ⟨.inherited, ⟨"A", .nowhere⟩, .i8, []⟩

/-- A file in which the constant is at the upper end. -/
def highestFile : SourceFile :=
  let type : Expr := .path (.ofName "A") .nowhere
  let greatest : Expr := .path ⟨false, [⟨"i8", .none⟩, ⟨"MAX", .none⟩]⟩ .nowhere
  { items := [
      .impl ⟨false, .path (.ofName "A"),
        [⟨⟨"B", .nowhere⟩, .path (.ofName "A"), .call type greatest .nowhere⟩]⟩,
      .type ⟨.inherited, ⟨"A", .nowhere⟩, none, .tuple [.path (.ofName "i8")], .nowhere⟩],
    span := .nowhere }

lemma eq_ok_of_isOk {ε α : Type} {result : Except ε α} (h : result.isOk = true) (otherwise : α) :
    result = .ok (result.toOption.getD otherwise) := by
  cases result with
  | error => cases h
  | ok => rfl

theorem guard_iff_highestFile :
    fileOf lowestText = .ok lowestFile ∧ ofFile lowestFile "A" = .ok lowestGroup ∧
      ∃ current found, ofFile highestFile "A" = .ok current ∧
        readAll (ofGroup lowestGroup).guardCode (·.readGuard) = .ok found ∧
        ¬ ∀ sides ∈ found, Holds (scopeBeside highestFile "A" current) sides := by
  have hfile : fileOf lowestText = .ok lowestFile := eq_ok_of_isOk (by decide +kernel) _
  have hgroup : ofFile lowestFile "A" = .ok lowestGroup := eq_ok_of_isOk (by decide +kernel) _
  have hcurrent : ofFile highestFile "A" =
      .ok ⟨.inherited, ⟨"A", .nowhere⟩, .i8, [⟨⟨"B", .nowhere⟩, true, 127, "B"⟩]⟩ := rfl
  obtain ⟨-, -, found, hread, -, hall, -⟩ :=
    guard_iff hfile hgroup hcurrent (by decide +kernel) (by decide) (by decide +kernel)
  refine ⟨hfile, hgroup, _, found, hcurrent, hread, fun hholds => ?_⟩
  have hvalues := hall.mp hholds
  revert hvalues
  decide +kernel

end EnumTables.Group
