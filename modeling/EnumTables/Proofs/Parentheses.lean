import EnumTables.Proofs.Rearrangement

/-!
# Parentheses around types

The type which a struct wraps, those of constants, those of `impl` blocks and those which integers are cast
to may stand in parentheses.  The group of a type is the same with any number of them, with one exception:
in a block of the type, a constant of `Self` counts, but one of `(Self)` does not.

* `Ty.bare`, `Expr.bare` and their like — what is left of a part without parentheses around types.
* `integer_bare`, `evaluateWith_bare` — an initializer comes to the same without them.
* `Reparenthesised` — items which are the same but for places and parentheses.
* `ofFile_reparenthesised` — their groups.
* `ofFile_withoutWrappedSelf` — the exception, a constant of `(Self)`, might as well not be there.
-/

namespace EnumTables.Source

open EnumTables.Token

/-! ## Parts of files without parentheses -/

/-- The type within all parentheses. -/
def Ty.bare : Ty → Ty
  | paren inner => inner.bare
  | path whole => path whole
  | bound => bound
  | other => other

/-- The types which integers are cast to lose their parentheses; expressions keep theirs. -/
def Expr.bare : Expr → Expr
  | integer number place span => integer number place span
  | neg operand span => neg operand.bare span
  | binary op left right span => binary op left.bare right.bare span
  | cast operand target span => cast operand.bare target.bare span
  | path whole span => path whole span
  | field base index span => field base.bare index span
  | call function argument span => call function.bare argument.bare span
  | paren inner span => paren inner.bare span
  | block span => block span
  | range span => range span
  | other span => other span

def Fields.bare : Fields → Fields
  | named => named
  | tuple types => tuple (types.map Ty.bare)
  | unit => unit

def TypeItem.bare (item : TypeItem) : TypeItem :=
  { item with fields := item.fields.bare }

@[simp] lemma Ty.primitive?_bare (type : Ty) : type.bare.primitive? = type.primitive? := by
  induction type with
  | paren inner ih => simpa [bare, primitive?] using ih
  | path | bound | other => rfl

@[simp] lemma Expr.span_bare (e : Expr) : e.bare.span = e.span := by
  cases e <;> rfl

end EnumTables.Source

namespace EnumTables.Constants

open EnumTables.Number EnumTables.Source EnumTables.Token

/-! ## Values -/

lemma isConstructor_bare (type : String) (e : Expr) : isConstructor type e.bare = isConstructor type e := by
  cases e <;> rfl

@[simp] lemma isLiteral_bare (e : Expr) : isLiteral e.bare = isLiteral e := by
  cases e <;> rfl

def Candidate.bare (candidate : Candidate) : Candidate :=
  { candidate with value := candidate.value.bare }

/-- The scope in which all initializers are written without parentheses around types. -/
def Scope.bare (scope : Scope) : Scope :=
  { scope with candidates := scope.candidates.map fun entry => (entry.1, entry.2.bare) }

@[simp] lemma type_bare (scope : Scope) : scope.bare.type = scope.type := rfl

@[simp] lemma repr_bare (scope : Scope) : scope.bare.repr = scope.repr := rfl

lemma depth_bare (scope : Scope) : scope.bare.depth = scope.depth := by
  simp only [Scope.depth, Scope.bare, List.length_map]

lemma find?_bare (scope : Scope) (key : Key) :
    scope.bare.candidates.find? key = (scope.candidates.find? key).map Candidate.bare := by
  obtain ⟨type, repr, candidates⟩ := scope
  simp only [Scope.bare, Candidates.find?]
  induction candidates with
  | nil => rfl
  | cons entry rest ih =>
      rw [List.map_cons, List.lookup_cons, List.lookup_cons, ih]
      cases key == entry.1 <;> rfl

lemma kind?_bare (scope : Scope) (key : Key) :
    scope.bare.candidates.kind? key = scope.candidates.kind? key := by
  rw [Candidates.kind?, Candidates.kind?, find?_bare, Option.map_map]
  rfl

lemma isGroup_bare (scope : Scope) (key : Key) : scope.bare.isGroup key = scope.isGroup key := by
  rw [Scope.isGroup, Scope.isGroup, kind?_bare]

lemma isScalar_bare (scope : Scope) (key : Key) : scope.bare.isScalar key = scope.isScalar key := by
  rw [Scope.isScalar, Scope.isScalar, kind?_bare]

/-- **An integer expression is evaluated in the same way** without parentheses around types. -/
theorem integer_bare (scope : Scope) (resolve : Key → Span → Eval Int) (e : Expr) :
    scope.bare.integer resolve e.bare = scope.integer resolve e := by
  induction e with
  | integer | call | block | range | other => simp only [Expr.bare, Scope.integer]
  | neg operand span ih =>
      cases hl : isLiteral operand
      · rw [Expr.bare, integer_neg hl, integer_neg (by rw [isLiteral_bare, hl]), ih]
      · cases operand <;> simp only [isLiteral, Bool.false_eq_true] at hl
        rfl
  | binary op left right span ihl ihr => simp only [Expr.bare, Scope.integer, ihl, ihr]
  | cast operand target span ih => simp only [Expr.bare, Scope.integer, ih, Ty.primitive?_bare]
  | path path span =>
      simp only [Expr.bare, Scope.integer, isGroup_bare]
      rfl
  | field base index span =>
      cases base with
      | path path inner =>
          simp only [Expr.bare, Scope.integer, isScalar_bare]
          rfl
      | _ => simp only [Expr.bare, Scope.integer]
  | paren inner span ih => simpa only [Expr.bare, Scope.integer] using ih

/-- An initializer of the type, too. -/
theorem group_bare (scope : Scope) (resolve : Key → Span → Eval Int) (e : Expr) :
    scope.bare.group resolve e.bare = scope.group resolve e := by
  induction e with
  | call function argument span =>
      simp only [Expr.bare, Scope.group, integer_bare, isConstructor_bare, Expr.span_bare, type_bare,
        repr_bare]
  | path path span =>
      simp only [Expr.bare, Scope.group, isGroup_bare]
      rfl
  | paren inner span ih => simpa only [Expr.bare, Scope.group] using ih
  | integer | neg | binary | cast | field | block | range | other => rfl

lemma initializer_bare (scope : Scope) (resolve : Key → Span → Eval Int) (candidate : Candidate) :
    scope.bare.initializer resolve candidate.bare = scope.initializer resolve candidate := by
  obtain ⟨_ | type, value⟩ := candidate
  · exact group_bare scope resolve value
  · simp only [Scope.initializer, Candidate.bare, integer_bare, Expr.span_bare]

/-- **A constant is evaluated in the same way** if all initializers lose the parentheses around types. -/
theorem evaluateWith_bare (scope : Scope) (depth : Nat) :
    scope.bare.evaluateWith depth = scope.evaluateWith depth := by
  induction depth with
  | zero => rfl
  | succ depth ih =>
      funext key span
      simp only [Scope.evaluateWith, find?_bare, ih]
      rcases scope.candidates.find? key with _ | candidate
      · rfl
      · simp only [Option.map_some, initializer_bare]

/-- A constant means the same. -/
theorem keyMeans_bare_iff {scope : Scope} {key : Key} {v : Int} :
    KeyMeans scope.bare key v ↔ KeyMeans scope key v := by
  have hmeans : ∀ scope : Scope,
      (∃ after, (scope.evaluate key .nowhere).run .empty = .ok (v, after)) ↔ KeyMeans scope key v :=
    fun _ => evaluate_iff sound_empty rfl
  rw [← hmeans, ← hmeans, Scope.evaluate, Scope.evaluate, evaluateWith_bare, depth_bare]

end EnumTables.Constants

namespace EnumTables.Group

open EnumTables.Constants EnumTables.Number EnumTables.Source EnumTables.Token

/-! ## Items with other parentheses -/

/-- **A constant is the same but for places and parentheses around types.**  In an inherent block of the
type, it is still of `Self` if it was, and not if it was not. -/
structure SameConst (inherent : Prop) (item item' : ConstItem) : Prop where
  name : item.name.placeless = item'.name.placeless
  type : item.type.bare.placeless = item'.type.bare.placeless
  value : item.value.bare.placeless = item'.value.bare.placeless
  self : inherent → isSelf item.type = isSelf item'.type

/-- **An item is the same but for places and parentheses around types**: the type which a struct wraps, the
types of constants, those of blocks and those which integers are cast to. -/
inductive Reparenthesised (name : String) : Item → Item → Prop
  | type {item item'} : item.bare.placeless = item'.bare.placeless →
      Reparenthesised name (.type item) (.type item')
  | const {item item'} : SameConst False item item' → Reparenthesised name (.const item) (.const item')
  | impl {block block'} : block.ofTrait = block'.ofTrait →
      block.subject.bare.placeless = block'.subject.bare.placeless →
      List.Forall₂ (SameConst (Inherent name block)) block.constants block'.constants →
      Reparenthesised name (.impl block) (.impl block')
  | other : Reparenthesised name .other .other

def Declaration.bare (declaration : Declaration) : Declaration :=
  { declaration with value := declaration.value.bare }

/-- What is left of a declaration without places and without parentheses around types. -/
def Declaration.outline (declaration : Declaration) : Declaration := declaration.bare.placeless

lemma isType_bare (name : String) (type : Ty) : isType name type.bare = isType name type := by
  induction type with
  | paren inner ih => simpa [Ty.bare, isType] using ih
  | path | bound | other => rfl

lemma isType_congr {type type' : Ty} (h : type.bare.placeless = type'.bare.placeless) (name : String) :
    isType name type = isType name type' := by
  rw [← isType_bare, ← isType_placeless, h, isType_placeless, isType_bare]

lemma primitive?_congr {type type' : Ty} (h : type.bare.placeless = type'.bare.placeless) :
    type.primitive? = type'.primitive? := by
  rw [← type.primitive?_bare, Ty.primitive?_congr h, type'.primitive?_bare]

/-! ## Declarations -/

/-- **The same constant counts, as the same kind.** -/
lemma SameConst.declaration? {inherent : Prop} {item item' : ConstItem} (h : SameConst inherent item item')
    (name : String) (associated : Bool) (hinherent : associated = true → inherent) :
    (Group.declaration? name associated item).map Declaration.outline =
      (Group.declaration? name associated item').map Declaration.outline := by
  have hkind : kindOf? name associated item.type = kindOf? name associated item'.type := by
    have hself : (associated && isSelf item.type) = (associated && isSelf item'.type) := by
      cases associated
      · rfl
      · rw [h.self (hinherent rfl)]
    rw [kindOf?, kindOf?, hself, isType_congr h.type, primitive?_congr h.type]
  simp only [Group.declaration?, hkind, Option.map_map, Function.comp_def, Declaration.outline,
    Declaration.bare, Declaration.placeless, h.name, h.value]

/-- What is picked from items which correspond to each other is the same. -/
lemma filterMap_eq_of_forall₂ {α β : Type} {R : α → α → Prop} {f : α → Option β} {l l' : List α}
    (h : List.Forall₂ R l l') (hf : ∀ a a', R a a' → f a = f a') : l.filterMap f = l'.filterMap f := by
  induction h with
  | nil => rfl
  | cons hR _ ih => rw [List.filterMap_cons, List.filterMap_cons, hf _ _ hR, ih]

variable {name : String}

lemma Reparenthesised.itemDeclarations {item item' : Item} (h : Reparenthesised name item item') :
    (Group.itemDeclarations name item).map Declaration.outline =
      (Group.itemDeclarations name item').map Declaration.outline := by
  cases h with
  | type | other => rfl
  | const h =>
      have hsame := h.declaration? name false (fun h => absurd h Bool.false_ne_true)
      simpa only [Group.itemDeclarations, ← Option.toList_map] using congrArg Option.toList hsame
  | @impl block block' htrait hsubject hconstants =>
      simp only [Group.itemDeclarations, ← htrait, ← isType_congr hsubject name]
      split_ifs with hblock
      · have hinherent : Inherent name block := by simpa [Inherent] using hblock
        rw [List.map_filterMap, List.map_filterMap]
        exact filterMap_eq_of_forall₂ hconstants fun _ _ hsame => hsame.declaration? name true fun _ => hinherent
      · rfl

variable {items items' : List Item}

/-- **The same constants count in both files.** -/
theorem map_outline_declared (h : List.Forall₂ (Reparenthesised name) items items') :
    (declared name items).map Declaration.outline = (declared name items').map Declaration.outline := by
  induction h with
  | nil => rfl
  | cons hitem _ ih =>
      simp only [declared, List.flatMap_cons, List.map_append] at ih ⊢
      rw [ih, hitem.itemDeclarations]

lemma map_outline_membersOf {found found' : List Declaration}
    (h : found.map Declaration.outline = found'.map Declaration.outline) :
    (membersOf found).map Declaration.outline = (membersOf found').map Declaration.outline := by
  have hkind : ∀ declaration : Declaration, declaration.outline.kind = declaration.kind := fun _ => rfl
  rw [membersOf_map hkind, membersOf_map hkind, h]

/-! ## Types -/

lemma map_placeless_structs (h : List.Forall₂ (Reparenthesised name) items items') :
    (structs name items).map (TypeItem.placeless ∘ TypeItem.bare) =
      (structs name items').map (TypeItem.placeless ∘ TypeItem.bare) := by
  rw [structs, structs, List.map_filterMap, List.map_filterMap]
  refine filterMap_eq_of_forall₂ h fun item item' hitem => ?_
  cases hitem with
  | @type item item' htype =>
      have hname : item.name.text = item'.name.text := congrArg (·.name.text) htype
      simp only [hname]
      split_ifs
      · exact congrArg some htype
      · rfl
  | const | impl | other => rfl

lemma wrapped?_bare (item : TypeItem) : wrapped? item.bare = wrapped? item := by
  obtain ⟨visibility, ident, generics, fields, span⟩ := item
  rcases fields with _ | ⟨_ | ⟨type, _ | ⟨second, rest⟩⟩⟩ | _ <;>
    simp [wrapped?, TypeItem.bare, Fields.bare]

variable {file file' : SourceFile} {subject subject' : Subject}

/-- The type is fit for a group in both files, and wraps the same integer. -/
lemma exists_subject_reparenthesised (h : List.Forall₂ (Reparenthesised name) file.items file'.items)
    (hs : subject? file name = .ok subject) :
    ∃ subject', subject? file' name = .ok subject' ∧
      subject'.item.name.text = subject.item.name.text ∧ subject'.repr = subject.repr := by
  obtain ⟨hfound, hgenerics, hwrapped⟩ := subject?_eq_ok_iff.mp hs
  have hhead := congrArg List.head? (map_placeless_structs h)
  rw [List.head?_map, List.head?_map, ← structNamed?_eq_head?, ← structNamed?_eq_head?, hfound,
    Option.map_some, eq_comm, Option.map_eq_some_iff] at hhead
  obtain ⟨item', hitem', hsame⟩ := hhead
  have hgenerics' : item'.generics = none := by
    have := congrArg TypeItem.generics hsame
    simpa [TypeItem.placeless, TypeItem.bare, hgenerics] using this
  have hwrapped' : wrapped? item' = wrapped? subject.item := by
    have := congrArg wrapped? hsame
    simpa only [Function.comp_apply, wrapped?_placeless, wrapped?_bare] using this
  refine ⟨⟨item', subject.repr⟩, subject?_eq_ok_iff.mpr ⟨hitem', hgenerics', ?_⟩, ?_, rfl⟩
  · rw [hwrapped', hwrapped]
  · exact congrArg (·.name.text) hsame

/-! ## Values -/

lemma find?_scopeOf_bare (file : SourceFile) (name : String) (subject : Subject) (key : Key) :
    ((scopeOf file name subject).bare.candidates.find? key).map Candidate.placeless =
      (((declarations file name).map Declaration.outline).reverse.find? (·.key == key)).map
        fun last => ⟨last.kind, last.value⟩ := by
  rw [find?_bare, scopeOf, find?_candidatesOf, ← List.map_reverse, List.find?_map, Option.map_map,
    Option.map_map, Option.map_map]
  rfl

/-- **Each key stands for the same in both files**, whether or not it is declared again. -/
theorem scopeOf_bare_alike (h : List.Forall₂ (Reparenthesised name) file.items file'.items)
    (hrepr : subject'.repr = subject.repr) :
    (scopeOf file name subject).bare.Alike (scopeOf file' name subject').bare := by
  refine ⟨rfl, hrepr.symm, fun key => ?_⟩
  have hfound : (declarations file name).map Declaration.outline =
      (declarations file' name).map Declaration.outline := map_outline_declared h
  rw [find?_scopeOf_bare, find?_scopeOf_bare, hfound]

/-- A constant lists a declaration in whatever parentheses the types around it stand. -/
lemma Lists.outline {scope scope' : Scope} (h : scope.bare.Alike scope') {declaration : Declaration}
    {constant : Constant} (hl : Lists scope declaration constant) :
    Lists scope' declaration.outline constant.placeless where
  ident := congrArg Identifier.placeless hl.ident
  associated := hl.associated
  name := hl.name
  value := (keyMeans_bare_iff.mpr hl.value).alike h

/-- Declarations which are the same but for places and parentheses are listed as the same. -/
lemma map_placeless_of_lists {scope scope' : Scope} (h : scope.bare.Alike scope'.bare)
    {members members' : List Declaration} {constants constants' : List Constant}
    (hm : members.map Declaration.outline = members'.map Declaration.outline)
    (hl : List.Forall₂ (Lists scope) members constants)
    (hl' : List.Forall₂ (Lists scope') members' constants') :
    constants.map Constant.placeless = constants'.map Constant.placeless := by
  have houtline : List.Forall₂ (Lists scope'.bare) (members.map Declaration.outline)
      (constants.map Constant.placeless) :=
    List.forall₂_map_left_iff.mpr (List.forall₂_map_right_iff.mpr (hl.imp fun _ _ hlists => hlists.outline h))
  have houtline' : List.Forall₂ (Lists scope'.bare) (members'.map Declaration.outline)
      (constants'.map Constant.placeless) :=
    List.forall₂_map_left_iff.mpr (List.forall₂_map_right_iff.mpr
      (hl'.imp fun _ _ hlists => hlists.outline ⟨rfl, rfl, fun _ => rfl⟩))
  rw [hm] at houtline
  exact List.right_unique_forall₂' (fun _ _ _ hlists hlists' => hlists.unique hlists') houtline houtline'

/-! ## Groups -/

lemma SameConst.symm {inherent inherent' : Prop} {item item' : ConstItem}
    (h : SameConst inherent item item') (hi : inherent' → inherent) : SameConst inherent' item' item :=
  ⟨h.name.symm, h.type.symm, h.value.symm, fun hinherent => (h.self (hi hinherent)).symm⟩

lemma Reparenthesised.symm {item item' : Item} (h : Reparenthesised name item item') :
    Reparenthesised name item' item := by
  cases h with
  | type h => exact .type h.symm
  | const h => exact .const (h.symm id)
  | @impl block block' htrait hsubject hconstants =>
      have hinherent : Inherent name block' ↔ Inherent name block := by
        rw [Inherent, Inherent, htrait, isType_congr hsubject]
      exact .impl htrait.symm hsubject.symm (hconstants.flip.imp fun _ _ hsame => hsame.symm hinherent.mp)
  | other => exact .other

/-- What is found in one file is found in the other. -/
lemma exists_group_reparenthesised (h : List.Forall₂ (Reparenthesised name) file.items file'.items)
    {group : Group} (hg : ofFile file name = .ok group) : ∃ group', ofFile file' name = .ok group' := by
  obtain ⟨subject, hs, hm⟩ := exists_subject_of_ofFile hg
  obtain ⟨subject', hs', -, hrepr⟩ := exists_subject_reparenthesised h hs
  have hmembers : (membersOf (declarations file name)).map Declaration.outline =
      (membersOf (declarations file' name)).map Declaration.outline :=
    map_outline_membersOf (map_outline_declared h)
  have hm' : membersOf (declarations file' name) ≠ [] := by
    intro hnil
    rw [hnil, List.map_nil, List.map_eq_nil_iff] at hmembers
    exact hm hmembers
  refine (ofFile_correct hs' hm').1.mpr fun member' hmember' => ?_
  obtain ⟨member, hmember, hsame⟩ := List.mem_map.mp (hmembers ▸ List.mem_map_of_mem hmember')
  obtain ⟨v, hv⟩ := (ofFile_correct hs hm).1.mp ⟨group, hg⟩ member hmember
  have hkey : member.outline.key = member'.outline.key := congrArg Declaration.key hsame
  have hv' : KeyMeans (scopeOf file' name subject').bare member.key v :=
    (keyMeans_bare_iff.mpr hv).alike (scopeOf_bare_alike h hrepr)
  exact ⟨v, hkey ▸ keyMeans_bare_iff.mp hv'⟩

/-- **Parentheses around types do not change what is found.**  If the items of a file differ in nothing but
their places and the parentheses around the types in them, and the constants of `Self` in blocks of the type
remain those of `Self`, then the group is found exactly if it was, for the same type; it has the same
constants, with the same identifiers, associated or not, with the same values and in the same order. -/
theorem ofFile_reparenthesised (h : List.Forall₂ (Reparenthesised name) file.items file'.items) :
    ((∃ group', ofFile file' name = .ok group') ↔ ∃ group, ofFile file name = .ok group) ∧
    ∀ group group', ofFile file name = .ok group → ofFile file' name = .ok group' →
      group'.ident.text = group.ident.text ∧ group'.repr = group.repr ∧
      group'.constants.map Constant.placeless = group.constants.map Constant.placeless := by
  refine ⟨⟨fun ⟨_, hg⟩ => exists_group_reparenthesised (h.flip.imp fun _ _ hitem => hitem.symm) hg,
    fun ⟨_, hg⟩ => exists_group_reparenthesised h hg⟩, ?_⟩
  intro group group' hg hg'
  obtain ⟨subject, hs, hm⟩ := exists_subject_of_ofFile hg
  obtain ⟨subject', hs', hm'⟩ := exists_subject_of_ofFile hg'
  obtain ⟨found, hfound, hname, hrepr⟩ := exists_subject_reparenthesised h hs
  obtain rfl : subject' = found := Except.ok.inj (hs'.symm.trans hfound)
  obtain ⟨constants, hl, rfl⟩ := (ofFile_eq_ok_iff hs hm).mp hg
  obtain ⟨constants', hl', rfl⟩ := (ofFile_eq_ok_iff hs' hm').mp hg'
  exact ⟨hname, hrepr, (map_placeless_of_lists (scopeOf_bare_alike h hrepr)
    (map_outline_membersOf (map_outline_declared h)) hl hl').symm⟩

/-- A file with a struct `A` and two constants of it, one in a block and one made of an integer which is
cast. -/
def plainFile : SourceFile :=
  let span : Span := { start := .origin, stop := .origin }
  let byte : Ty := .path (.ofName "u8")
  let call (argument : Expr) : Expr := .call (.path (.ofName "A") span) argument span
  { items := [
      .type ⟨.inherited, ⟨"A", span⟩, none, .tuple [byte], span⟩,
      .const ⟨⟨"B", span⟩, .path (.ofName "A"),
        call (.cast (.integer ⟨258, ""⟩ span span) byte span)⟩,
      .impl ⟨false, .path (.ofName "A"), [
        ⟨⟨"C", span⟩, .path (.ofName "A"), call (.integer ⟨1, ""⟩ span span)⟩]⟩],
    span }

/-- The same file with parentheses around each type. -/
def wrappedFile : SourceFile :=
  let span : Span := { start := .origin, stop := .origin }
  let byte : Ty := .paren (.path (.ofName "u8"))
  let type : Ty := .paren (.paren (.path (.ofName "A")))
  let call (argument : Expr) : Expr := .call (.path (.ofName "A") span) argument span
  { items := [
      .type ⟨.inherited, ⟨"A", span⟩, none, .tuple [byte], span⟩,
      .const ⟨⟨"B", span⟩, type, call (.cast (.integer ⟨258, ""⟩ span span) byte span)⟩,
      .impl ⟨false, type, [⟨⟨"C", span⟩, type, call (.integer ⟨1, ""⟩ span span)⟩]⟩],
    span }

lemma reparenthesised_wrappedFile :
    List.Forall₂ (Reparenthesised "A") plainFile.items wrappedFile.items :=
  .cons (.type rfl) (.cons (.const ⟨rfl, rfl, rfl, fun h => h.elim⟩)
    (.cons (.impl rfl rfl (.cons ⟨rfl, rfl, rfl, fun _ => rfl⟩ .nil)) .nil))

theorem ofFile_reparenthesised_wrappedFile :
    List.Forall₂ (Reparenthesised "A") plainFile.items wrappedFile.items ∧
      ∃ group, ofFile wrappedFile "A" = .ok group :=
  ⟨reparenthesised_wrappedFile, (ofFile_reparenthesised reparenthesised_wrappedFile).1.mpr ⟨_, rfl⟩⟩

/-! ## Constants of `(Self)` -/

/-- A constant is of `Self` in parentheses. -/
def isWrappedSelf (item : ConstItem) : Bool := isSelf item.type.bare && !isSelf item.type

/-- An item without the constants of `(Self)` in its block. -/
def withoutWrappedSelf : Item → Item
  | .impl block => .impl { block with constants := block.constants.filter (!isWrappedSelf ·) }
  | item => item

/-- `Self` names no primitive, and no type which is called otherwise. -/
lemma names_of_isSelf {type : Ty} (h : isSelf type = true) :
    type.primitive? = none ∧ ∀ name, isType name type = true → name = "Self" := by
  cases type with
  | path whole =>
      have hident : whole.ident? = some "Self" := by simpa [isSelf] using h
      constructor
      · rw [Ty.primitive?, hident]
        rfl
      · intro name hname
        obtain ⟨_ | _, _ | ⟨segment, _ | ⟨second, rest⟩⟩⟩ := whole <;>
          simp only [Path.ident?, reduceCtorEq] at hident
        -- the path is one segment, with which both tests compare
        split_ifs at hident
        have hsegment : segment.name = name := by
          simp only [isType, List.getLast?_singleton, Option.any_some, Bool.and_eq_true, beq_iff_eq] at hname
          exact hname.1
        exact hsegment ▸ Option.some_inj.mp hident
  | paren | bound | other => simp [isSelf] at h

/-- **A constant of `(Self)` does not count**, as long as the type is not called `Self` itself. -/
lemma declaration?_wrappedSelf (hname : name ≠ "Self") {item : ConstItem} (h : isWrappedSelf item = true)
    (associated : Bool) : declaration? name associated item = none := by
  rw [isWrappedSelf, Bool.and_eq_true, Bool.not_eq_true'] at h
  obtain ⟨hbare, hself⟩ := h
  obtain ⟨hprimitive, htype⟩ := names_of_isSelf hbare
  have htype' : isType name item.type = false := by
    rw [← isType_bare, Bool.eq_false_iff]
    exact fun hname' => hname (htype name hname')
  rw [declaration?, kindOf?, hself, htype', ← item.type.primitive?_bare, hprimitive, Bool.and_false]
  rfl

lemma itemDeclarations_withoutWrappedSelf (hname : name ≠ "Self") (item : Item) :
    itemDeclarations name (withoutWrappedSelf item) = itemDeclarations name item := by
  cases item with
  | type | const | other => rfl
  | impl block =>
      simp only [withoutWrappedSelf, itemDeclarations, List.filterMap_filter]
      split_ifs
      · refine List.filterMap_congr fun item _ => ?_
        cases h : isWrappedSelf item
        · rfl
        · rw [declaration?_wrappedSelf hname h]
          rfl
      · rfl

/-- **The constants of `(Self)` have no part in a group**: it is found as if they were not there. -/
theorem ofFile_withoutWrappedSelf (hname : name ≠ "Self") (file : SourceFile) :
    ofFile { file with items := file.items.map withoutWrappedSelf } name = ofFile file name := by
  have hdeclared : declarations { file with items := file.items.map withoutWrappedSelf } name =
      declarations file name := by
    simp only [declarations, List.flatMap_map, itemDeclarations_withoutWrappedSelf hname]
  have hstruct : structNamed? { file with items := file.items.map withoutWrappedSelf } name =
      structNamed? file name := by
    simp only [structNamed?, List.findSome?_map]
    congr 1
    funext item
    cases item <;> rfl
  simp only [ofFile, subject?, hdeclared, hstruct]

/-- A file with a struct `A`, and a block in which a constant is of the given type and another of `Self`. -/
def selfFile (type : Ty) : SourceFile :=
  let span : Span := { start := .origin, stop := .origin }
  let call (value : Nat) : Expr := .call (.path (.ofName "Self") span) (.integer ⟨value, ""⟩ span span) span
  { items := [
      .type ⟨.inherited, ⟨"A", span⟩, none, .tuple [.path (.ofName "u8")], span⟩,
      .impl ⟨false, .path (.ofName "A"), [
        ⟨⟨"B", span⟩, type, call 1⟩,
        ⟨⟨"C", span⟩, .path (.ofName "Self"), call 2⟩]⟩],
    span }

/-- A constant of `Self` is lost in parentheses, and nothing fails. -/
theorem selfFile_loses :
    ∃ group group', ofFile (selfFile (.path (.ofName "Self"))) "A" = .ok group ∧
      ofFile (selfFile (.paren (.path (.ofName "Self")))) "A" = .ok group' ∧
      group.constants.map (·.value) = [1, 2] ∧ group'.constants.map (·.value) = [2] :=
  ⟨_, _, rfl, rfl, rfl, rfl⟩

end EnumTables.Group
