import EnumTables.Proofs.Listing
import EnumTables.Proofs.Places
import Mathlib.Data.List.Forall2
import Mathlib.Data.List.Perm.Basic

/-!
# Groups do not depend on the order of items

The items of a file may be declared in any order, the constants of a type may be spread over any number of
blocks, and other items may stand between them: the group of the type has the same constants, in the order
in which they are declared.

* `Step` and `Rearranged` — the ways in which a file is rearranged.
* `Kept` — what a group is made of, which each of these ways keeps up to order and places.
* `scopeOf_alike` — if no two constants share a key, each key stands for the same in both files.
* `ofFile_rearranged` — the groups of both files.
-/

namespace EnumTables.Group

open EnumTables.Constants EnumTables.Number EnumTables.Source EnumTables.Token

/-! ## Rearranging files -/

/-- The structs with a name. -/
def structs (name : String) (items : List Item) : List TypeItem :=
  items.filterMap fun
    | .type item => if item.name.text = name then some item else none
    | _ => none

/-- The constants of items which count, in order. -/
def declared (name : String) (items : List Item) : List Declaration :=
  items.flatMap (itemDeclarations name)

/-- An item is unrelated to the group of a type: it is neither a struct of that name, nor a constant of the
type or an integer, nor an inherent block of the type. -/
def Unrelated (name : String) : Item → Prop
  | .type item => item.name.text ≠ name
  | .const item => isType name item.type = false ∧ item.type.primitive? = none
  | .impl block => block.ofTrait = true ∨ isType name block.subject = false
  | .other => True

/-- An inherent block of a type. -/
def Inherent (name : String) (block : ImplItem) : Prop :=
  block.ofTrait = false ∧ isType name block.subject = true

/-- **One way to rearrange the items of a file.** -/
inductive Step (name : String) : List Item → List Item → Prop
  | permute {items items'} : items.Perm items' → Step name items items'
  /-- The constants of an inherent block change places. -/
  | shuffle {before behind block constants} : Inherent name block → block.constants.Perm constants →
      Step name (before ++ .impl block :: behind) (before ++ .impl { block with constants } :: behind)
  /-- An inherent block is split in two; each may write the type in its own way. -/
  | split {before behind whole first second} : Inherent name whole → Inherent name first →
      Inherent name second → whole.constants = first.constants ++ second.constants →
      Step name (before ++ .impl whole :: behind) (before ++ .impl first :: .impl second :: behind)
  | merge {before behind whole first second} : Inherent name whole → Inherent name first →
      Inherent name second → whole.constants = first.constants ++ second.constants →
      Step name (before ++ .impl first :: .impl second :: behind) (before ++ .impl whole :: behind)
  | insert {before behind item} : Unrelated name item →
      Step name (before ++ behind) (before ++ item :: behind)
  /-- A constant which does not count is put into an inherent block. -/
  | widen {before behind block first second constant} : Inherent name block →
      block.constants = first ++ second → kindOf? name true constant.type = none →
      Step name (before ++ .impl block :: behind)
        (before ++ .impl { block with constants := first ++ constant :: second } :: behind)
  /-- The same items are written at other places, as they are whenever something before them changes. -/
  | place {items items'} : items.map Item.placeless = items'.map Item.placeless → Step name items items'

/-- **Items are rearranged**, in any number of steps. -/
def Rearranged (name : String) : List Item → List Item → Prop :=
  Relation.ReflTransGen (Step name)

/-! ## What is left of declarations without places -/

def Declaration.placeless (declaration : Declaration) : Declaration :=
  ⟨declaration.ident.placeless, declaration.associated, declaration.kind, declaration.value.placeless⟩

@[simp] lemma Declaration.key_placeless (declaration : Declaration) :
    declaration.placeless.key = declaration.key := rfl

lemma isType_placeless (name : String) (type : Ty) : isType name type.placeless = isType name type := by
  induction type with
  | path whole =>
      simp only [Ty.placeless, isType, Path.placeless, List.getLast?_map, Option.any_map,
        PathSegment.placeless, PathArguments.isEmpty_placeless]
  | paren inner ih => simpa [Ty.placeless, isType] using ih
  | bound | other => rfl

lemma isSelf_placeless (type : Ty) : isSelf type.placeless = isSelf type := by
  cases type <;> simp [Ty.placeless, isSelf]

lemma declaration?_placeless (name : String) (associated : Bool) (item : ConstItem) :
    declaration? name associated item.placeless =
      (declaration? name associated item).map Declaration.placeless := by
  simp only [declaration?, kindOf?, ConstItem.placeless, isType_placeless, isSelf_placeless,
    Ty.primitive?_placeless, Option.map_map]
  rfl

lemma itemDeclarations_placeless (name : String) (item : Item) :
    itemDeclarations name item.placeless = (itemDeclarations name item).map Declaration.placeless := by
  cases item with
  | type | other => rfl
  | const item =>
      simp only [Item.placeless, itemDeclarations, declaration?_placeless]
      cases declaration? name false item <;> rfl
  | impl block =>
      simp only [Item.placeless, ImplItem.placeless, itemDeclarations, isType_placeless]
      split_ifs
      · rw [List.filterMap_map, List.map_filterMap]
        exact List.filterMap_congr fun item _ => declaration?_placeless name true item
      · rfl

lemma declared_placeless (name : String) (items : List Item) :
    declared name (items.map Item.placeless) = (declared name items).map Declaration.placeless := by
  simp only [declared, List.flatMap_map, List.map_flatMap, itemDeclarations_placeless]

lemma structs_placeless (name : String) (items : List Item) :
    structs name (items.map Item.placeless) = (structs name items).map TypeItem.placeless := by
  rw [structs, structs, List.filterMap_map, List.map_filterMap]
  refine List.filterMap_congr fun item _ => ?_
  cases item with
  | type item =>
      simp only [Function.comp_apply, Item.placeless, TypeItem.placeless, Identifier.placeless]
      split_ifs <;> rfl
  | const | impl | other => rfl

/-! ## What each step keeps -/

/-- **What a group is made of is kept**, up to order and places. -/
structure Kept (name : String) (items items' : List Item) : Prop where
  types : ((structs name items).map TypeItem.placeless).Perm
    ((structs name items').map TypeItem.placeless)
  constants : ((declared name items).map Declaration.placeless).Perm
    ((declared name items').map Declaration.placeless)

variable {name : String} {items items' : List Item}

lemma Kept.refl (name : String) (items : List Item) : Kept name items items := ⟨.refl _, .refl _⟩

lemma Kept.symm (h : Kept name items items') : Kept name items' items :=
  ⟨h.types.symm, h.constants.symm⟩

lemma Kept.trans {items'' : List Item} (h : Kept name items items') (h' : Kept name items' items'') :
    Kept name items items'' :=
  ⟨h.types.trans h'.types, h.constants.trans h'.constants⟩

/-- Items in the middle may be replaced by others which bring the same. -/
lemma kept_of_middle (before behind middle middle' : List Item)
    (hs : structs name middle = structs name middle')
    (hd : (declared name middle).Perm (declared name middle')) :
    Kept name (before ++ (middle ++ behind)) (before ++ (middle' ++ behind)) := by
  constructor
  · simp only [structs, List.filterMap_append] at hs ⊢
    rw [hs]
  · simp only [declared, List.flatMap_append] at hd ⊢
    exact ((hd.append_right _).append_left _).map _

lemma Unrelated.structs {item : Item} (h : Unrelated name item) : structs name [item] = [] := by
  cases item with
  | type item => simpa [Group.structs, Unrelated] using h
  | const | impl | other => rfl

lemma Unrelated.itemDeclarations {item : Item} (h : Unrelated name item) :
    itemDeclarations name item = [] := by
  cases item with
  | type | other => rfl
  | const item =>
      obtain ⟨htype, hprimitive⟩ := h
      simp [Group.itemDeclarations, declaration?, kindOf?, htype, hprimitive]
  | impl block =>
      rcases h with h | h <;> simp [Group.itemDeclarations, h]

lemma Inherent.itemDeclarations {block : ImplItem} (h : Inherent name block) :
    itemDeclarations name (.impl block) = block.constants.filterMap (declaration? name true) := by
  simp [Group.itemDeclarations, h.1, h.2]

lemma declared_split {whole first second : ImplItem} (hw : Inherent name whole)
    (hf : Inherent name first) (hs : Inherent name second)
    (hc : whole.constants = first.constants ++ second.constants) :
    declared name [.impl whole] = declared name [.impl first, .impl second] := by
  simp [declared, hw.itemDeclarations, hf.itemDeclarations, hs.itemDeclarations, hc]

/-- **Each step keeps what a group is made of.** -/
theorem Step.kept (h : Step name items items') : Kept name items items' := by
  cases h with
  | permute hp => exact ⟨(hp.filterMap _).map _, (hp.flatMap_right _).map _⟩
  | @shuffle before behind block constants hb hp =>
      have hb' : Inherent name { block with constants } := hb
      have hd : (declared name [.impl block]).Perm (declared name [.impl { block with constants }]) := by
        simpa [declared, hb.itemDeclarations, hb'.itemDeclarations] using hp.filterMap _
      exact kept_of_middle before behind [_] [_] rfl hd
  | @split before behind whole first second hw hf hs hc =>
      exact kept_of_middle before behind [_] [_, _] rfl (.of_eq (declared_split hw hf hs hc))
  | @merge before behind whole first second hw hf hs hc =>
      exact kept_of_middle before behind [_, _] [_] rfl (.of_eq (declared_split hw hf hs hc).symm)
  | @insert before behind item hu =>
      have hd : declared name [] = declared name [item] := by
        simp [declared, hu.itemDeclarations]
      exact kept_of_middle before behind [] [_] hu.structs.symm (.of_eq hd)
  | @widen before behind block first second constant hb hc hk =>
      have hb' : Inherent name { block with constants := first ++ constant :: second } := hb
      have hd : declared name [.impl block] =
          declared name [.impl { block with constants := first ++ constant :: second }] := by
        simp [declared, hb.itemDeclarations, hb'.itemDeclarations, hc, declaration?, hk]
      exact kept_of_middle before behind [_] [_] rfl (.of_eq hd)
  | place hp =>
      constructor
      · rw [← structs_placeless, hp, structs_placeless]
      · rw [← declared_placeless, hp, declared_placeless]

/-- What a group is made of is kept by any number of steps. -/
theorem Rearranged.kept (h : Rearranged name items items') : Kept name items items' := by
  induction h with
  | refl => exact .refl name items
  | tail _ hstep ih => exact ih.trans hstep.kept

/-! ## The type -/

variable {file file' : SourceFile} {subject : Subject}

lemma structNamed?_eq_head? (file : SourceFile) (name : String) :
    structNamed? file name = (structs name file.items).head? :=
  List.head?_filterMap.symm

lemma wrapped?_placeless (item : TypeItem) : wrapped? item.placeless = wrapped? item := by
  obtain ⟨visibility, ident, generics, fields, span⟩ := item
  rcases fields with _ | ⟨_ | ⟨type, _ | ⟨second, rest⟩⟩⟩ | _ <;>
    simp [wrapped?, TypeItem.placeless, Fields.placeless]

/-- The type is fit for a group in both files, and wraps the same integer. -/
lemma Kept.exists_subject (h : Kept name file.items file'.items)
    (hstruct : (structs name file.items).length = 1) (hs : subject? file name = .ok subject) :
    ∃ subject', subject? file' name = .ok subject' ∧
      subject'.item.placeless = subject.item.placeless ∧ subject'.repr = subject.repr := by
  obtain ⟨hfound, hgenerics, hwrapped⟩ := subject?_eq_ok_iff.mp hs
  obtain ⟨item, hitem⟩ := List.length_eq_one_iff.mp hstruct
  rw [structNamed?_eq_head?, hitem, List.head?_cons, Option.some_inj] at hfound
  -- a list of one element has no other order
  have hitem' := h.types
  rw [hitem, List.map_singleton, List.singleton_perm, eq_comm, List.map_eq_singleton_iff] at hitem'
  obtain ⟨item', hitems', hplaceless⟩ := hitem'
  rw [hfound] at hplaceless
  have hgenerics' : item'.generics = none := by
    have := congrArg TypeItem.generics hplaceless
    simpa [TypeItem.placeless, hgenerics] using this
  refine ⟨⟨item', subject.repr⟩, subject?_eq_ok_iff.mpr ⟨?_, hgenerics', ?_⟩, hplaceless, rfl⟩
  · rw [structNamed?_eq_head?, hitems', List.head?_cons]
  · rw [← wrapped?_placeless, hplaceless, wrapped?_placeless, hwrapped]

/-! ## The constants -/

lemma Kept.nodup_keys (h : Kept name file.items file'.items)
    (hkeys : ((declarations file name).map Declaration.key).Nodup) :
    ((declarations file' name).map Declaration.key).Nodup := by
  have hperm := h.constants.map Declaration.key
  simp only [List.map_map, Function.comp_def, Declaration.key_placeless] at hperm
  exact hperm.nodup_iff.mp hkeys

lemma Kept.find? (h : Kept name file.items file'.items)
    (hkeys : ((declarations file name).map Declaration.key).Nodup) {key : Key} {candidate : Candidate}
    (hf : ((candidatesOf (declarations file name)).find? key).map Candidate.placeless = some candidate) :
    ((candidatesOf (declarations file' name)).find? key).map Candidate.placeless = some candidate := by
  simp only [Option.map_eq_some_iff, find?_candidatesOf_eq_some_iff hkeys,
    find?_candidatesOf_eq_some_iff (h.nodup_keys hkeys)] at hf ⊢
  obtain ⟨_, ⟨declaration, hmem, rfl, rfl⟩, rfl⟩ := hf
  obtain ⟨declaration', hmem', hsame⟩ :=
    List.mem_map.mp (h.constants.mem_iff.mp (List.mem_map_of_mem hmem))
  have hkey : declaration'.placeless.key = declaration.placeless.key := congrArg Declaration.key hsame
  have hkind : declaration'.placeless.kind = declaration.placeless.kind := congrArg Declaration.kind hsame
  have hvalue : declaration'.placeless.value = declaration.placeless.value :=
    congrArg Declaration.value hsame
  exact ⟨_, ⟨declaration', hmem', hkey, rfl⟩, congrArg₂ Candidate.mk hkind hvalue⟩

/-- **Each key stands for the same constant in both files.** -/
theorem scopeOf_alike {subject' : Subject} (h : Kept name file.items file'.items)
    (hkeys : ((declarations file name).map Declaration.key).Nodup)
    (hrepr : subject'.repr = subject.repr) :
    (scopeOf file name subject).Alike (scopeOf file' name subject') := by
  refine ⟨rfl, hrepr.symm, fun key => Option.ext fun candidate => ?_⟩
  exact ⟨h.find? hkeys, h.symm.find? (h.nodup_keys hkeys)⟩

/-- Declarations may be changed in all but their kinds before those of the type are selected. -/
lemma membersOf_map {f : Declaration → Declaration}
    (hf : ∀ declaration, (f declaration).kind = declaration.kind) (found : List Declaration) :
    (membersOf found).map f = membersOf (found.map f) := by
  simp only [membersOf, List.filter_map, Function.comp_def, hf]

lemma membersOf_placeless (found : List Declaration) :
    (membersOf found).map Declaration.placeless = membersOf (found.map Declaration.placeless) :=
  membersOf_map (f := Declaration.placeless) (fun _ => rfl) found

/-- The constants of the type are the same in both files. -/
lemma Kept.members (h : Kept name file.items file'.items) :
    ((membersOf (declarations file name)).map Declaration.placeless).Perm
      ((membersOf (declarations file' name)).map Declaration.placeless) := by
  rw [membersOf_placeless, membersOf_placeless]
  exact h.constants.filter _

/-! ## Groups -/

/-- A listed constant without its place. -/
def Constant.placeless (constant : Constant) : Constant :=
  { constant with ident := constant.ident.placeless }

/-- A constant lists a declaration wherever both are written. -/
lemma Lists.placeless {scope scope' : Scope} (h : scope.Alike scope') {declaration : Declaration}
    {constant : Constant} (hl : Lists scope declaration constant) :
    Lists scope' declaration.placeless constant.placeless where
  ident := congrArg Identifier.placeless hl.ident
  associated := hl.associated
  name := hl.name
  value := hl.value.alike h

lemma Lists.unique {scope : Scope} {declaration : Declaration} {constant other : Constant}
    (h : Lists scope declaration constant) (h' : Lists scope declaration other) : constant = other := by
  obtain ⟨ident, associated, value, name⟩ := constant
  obtain ⟨ident', associated', value', name'⟩ := other
  obtain ⟨rfl, rfl, rfl, hv⟩ := h
  obtain ⟨rfl, rfl, rfl, hv'⟩ := h'
  obtain rfl : value = value' := hv.unique hv'
  rfl

/-- What is found in one file is found in the other. -/
lemma Kept.exists_group (h : Kept name file.items file'.items)
    (hstruct : (structs name file.items).length = 1)
    (hkeys : ((declarations file name).map Declaration.key).Nodup) {group : Group}
    (hg : ofFile file name = .ok group) :
    ∃ group', ofFile file' name = .ok group' := by
  obtain ⟨subject, hs, hm⟩ := exists_subject_of_ofFile hg
  obtain ⟨subject', hs', -, hrepr⟩ := h.exists_subject hstruct hs
  have hm' : membersOf (declarations file' name) ≠ [] := by
    intro hnil
    have hperm := h.members
    rw [hnil, List.map_nil, List.perm_nil, List.map_eq_nil_iff] at hperm
    exact hm hperm
  refine (ofFile_correct hs' hm').1.mpr fun member' hmember' => ?_
  obtain ⟨member, hmember, hsame⟩ :=
    List.mem_map.mp (h.members.mem_iff.mpr (List.mem_map_of_mem hmember'))
  obtain ⟨v, hv⟩ := (ofFile_correct hs hm).1.mp ⟨group, hg⟩ member hmember
  have hkey : member.placeless.key = member'.placeless.key := congrArg Declaration.key hsame
  exact ⟨v, hkey ▸ hv.alike (scopeOf_alike h hkeys hrepr)⟩

/-- Constants which list the same declarations in another order are the same in another order. -/
lemma perm_of_lists (scope : Scope) {members members' : List Declaration}
    {constants constants' : List Constant} (hp : members.Perm members')
    (hl : List.Forall₂ (Lists scope) members constants)
    (hl' : List.Forall₂ (Lists scope) members' constants') : constants.Perm constants' := by
  obtain ⟨between, hbetween, hperm⟩ := List.perm_comp_forall₂ hp hl'
  have hsame : constants = between :=
    List.right_unique_forall₂' (fun _ _ _ h h' => h.unique h') hl hbetween
  exact hsame ▸ hperm

/-- **The group of a type does not depend on how the items of its file are arranged.**  If there is one
struct of the name, and no two constants which count share a key, then in a file which is rearranged the
group is found exactly if it was, for the same type; and it has the same constants, with the same
identifiers, associated or not, and with the same values, in the order in which they are now declared. -/
theorem ofFile_rearranged (hstruct : (structs name file.items).length = 1)
    (hkeys : ((declarations file name).map Declaration.key).Nodup)
    (h : Rearranged name file.items file'.items) :
    ((∃ group', ofFile file' name = .ok group') ↔ ∃ group, ofFile file name = .ok group) ∧
    ∀ group group', ofFile file name = .ok group → ofFile file' name = .ok group' →
      group'.ident.text = group.ident.text ∧ group'.repr = group.repr ∧
      (group'.constants.map Constant.placeless).Perm (group.constants.map Constant.placeless) ∧
      group'.constants.map (fun constant => (constant.ident, constant.associated)) =
        (membersOf (declarations file' name)).map fun member => (member.ident, member.associated) := by
  have hkept := h.kept
  have hstruct' : (structs name file'.items).length = 1 := by
    simpa [hstruct] using hkept.types.length_eq.symm
  refine ⟨⟨fun ⟨_, hg⟩ => hkept.symm.exists_group hstruct' (hkept.nodup_keys hkeys) hg,
    fun ⟨_, hg⟩ => hkept.exists_group hstruct hkeys hg⟩, ?_⟩
  intro group group' hg hg'
  obtain ⟨subject, hs, hm⟩ := exists_subject_of_ofFile hg
  obtain ⟨subject', hs', hm'⟩ := exists_subject_of_ofFile hg'
  obtain ⟨found, hfound, hitem, hrepr⟩ := hkept.exists_subject hstruct hs
  obtain rfl : subject' = found := Except.ok.inj (hs'.symm.trans hfound)
  obtain ⟨constants, hl, rfl⟩ := (ofFile_eq_ok_iff hs hm).mp hg
  obtain ⟨constants', hl', rfl⟩ := (ofFile_eq_ok_iff hs' hm').mp hg'
  refine ⟨congrArg (·.name.text) hitem, hrepr, ?_, ?_⟩
  · have halike := scopeOf_alike hkept hkeys hrepr
    refine perm_of_lists (scopeOf file name subject) hkept.members.symm ?_ ?_
    · exact List.forall₂_map_left_iff.mpr (List.forall₂_map_right_iff.mpr
        (hl'.imp fun _ _ hlists => hlists.placeless halike.symm))
    · exact List.forall₂_map_left_iff.mpr (List.forall₂_map_right_iff.mpr
        (hl.imp fun _ _ hlists => hlists.placeless ⟨rfl, rfl, fun _ => rfl⟩))
  · exact map_eq_of_lists hl'

/-- A file with a struct `A`, two constants of it in one block, and an integer which one of them is made
of. -/
def gatheredFile : SourceFile :=
  let span : Span := { start := .origin, stop := .origin }
  let self : Ty := .path (.ofName "Self")
  let call (argument : Expr) : Expr := .call (.path (.ofName "A") span) argument span
  { items := [
      .type ⟨.inherited, ⟨"A", span⟩, none, .tuple [.path (.ofName "u8")], span⟩,
      .const ⟨⟨"N", span⟩, .path (.ofName "u8"), .integer ⟨7, ""⟩ span span⟩,
      .impl ⟨false, .path (.ofName "A"), [
        ⟨⟨"B", span⟩, self, call (.integer ⟨1, ""⟩ span span)⟩,
        ⟨⟨"C", span⟩, self, call (.path (.ofName "N") span)⟩]⟩],
    span }

/-- The same file with its items the other way round, one block for each of the constants, and another
item before them. -/
def scatteredFile : SourceFile :=
  let span : Span := { start := .origin, stop := .origin }
  let self : Ty := .path (.ofName "Self")
  let call (argument : Expr) : Expr := .call (.path (.ofName "A") span) argument span
  { items := [
      .other,
      .impl ⟨false, .path (.ofName "A"), [⟨⟨"C", span⟩, self, call (.path (.ofName "N") span)⟩]⟩,
      .impl ⟨false, .path (.ofName "A"), [⟨⟨"B", span⟩, self, call (.integer ⟨1, ""⟩ span span)⟩]⟩,
      .const ⟨⟨"N", span⟩, .path (.ofName "u8"), .integer ⟨7, ""⟩ span span⟩,
      .type ⟨.inherited, ⟨"A", span⟩, none, .tuple [.path (.ofName "u8")], span⟩],
    span }

lemma rearranged_scatteredFile : Rearranged "A" gatheredFile.items scatteredFile.items := by
  have hblock : ∀ constants, Inherent "A" ⟨false, .path (.ofName "A"), constants⟩ := fun _ => ⟨rfl, rfl⟩
  refine .head (.permute (List.reverse_perm _).symm) ?_
  refine .head (@Step.shuffle _ [] _ _ _ (hblock _) (List.reverse_perm _).symm) ?_
  refine .head (@Step.split _ [] _ _ ⟨_, _, [_]⟩ ⟨_, _, [_]⟩ (hblock _) (hblock _) (hblock _) rfl) ?_
  exact .single (@Step.insert _ [] _ .other trivial)

theorem ofFile_rearranged_scatteredFile :
    (structs "A" gatheredFile.items).length = 1 ∧
      ((declarations gatheredFile "A").map Declaration.key).Nodup ∧
      Rearranged "A" gatheredFile.items scatteredFile.items ∧
      ∃ group, ofFile scatteredFile "A" = .ok group :=
  ⟨rfl, by decide, rearranged_scatteredFile,
    (ofFile_rearranged rfl (by decide) rearranged_scatteredFile).1.mpr ⟨_, rfl⟩⟩

end EnumTables.Group
