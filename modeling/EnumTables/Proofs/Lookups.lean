import EnumTables.Proofs.Registration

/-!
# Lookups in registered enumerations

An enumeration keeps its names and its indices in two lists, and looks things up by their places.  If it
was registered, neither list has a value twice, so that the lookups are inverse to each other and every view
of the enumeration tells the same members.

* `foldl_adjust` — of all settings only the last one is left.
* `bind_getElem?_eq_some_iff` — looking up in two lists of one length is looking for a pair.
* `Side.Answers` — how one side of an enumeration answers, in terms of the pairs.
* `Enumeration.Faithful` — how an enumeration answers, in terms of its definition and its settings.
-/

namespace EnumTables.Enumeration

variable {S N α β γ : Type}

/-! ## Settings -/

/-- **Of all settings only the last one is left**, and it changes nothing but the undefined values. -/
lemma foldl_adjust (settings : List (Setting S N)) (enumeration : Enumeration S N) :
    settings.foldl (fun enumeration setting => setting.adjust enumeration) enumeration =
      { index := ⟨enumeration.index.id, enumeration.index.typeName,
          (settings.getLast?.map (·.index)).getD enumeration.index.undefined, enumeration.index.values⟩
        description := ⟨enumeration.description.id, enumeration.description.typeName,
          (settings.getLast?.map (·.name)).getD enumeration.description.undefined,
          enumeration.description.values⟩ } := by
  induction settings generalizing enumeration with
  | nil => rfl
  | cons setting rest ih =>
      rw [List.foldl_cons, ih, List.getLast?_cons]
      rcases rest.getLast? with _ | last <;> rfl

lemma members_defined {names : MemberType S} {indexes : MemberType N} {id : String}
    {definition : List (S × N)} : (defined names indexes id definition).members = definition := by
  induction definition with
  | nil => rfl
  | cons entry rest ih => exact congrArg (entry :: ·) ih

/-! ## Looking up by places -/

/-- The place of the first entry with a key leads to what the entry pairs with the key. -/
lemma findIdx?_bind_getElem? (l : List γ) (f : γ → α) (g : γ → β) (test : α → Bool) :
    ((l.map f).findIdx? test).bind (fun place => (l.map g)[place]?) =
      (l.find? fun a => test (f a)).map g := by
  induction l with
  | nil => rfl
  | cons a rest ih =>
      rw [List.map_cons, List.map_cons, List.findIdx?_cons, List.find?_cons]
      cases test (f a)
      · simp only [Bool.false_eq_true, if_false, Option.bind_map, Function.comp_def,
          List.getElem?_cons_succ]
        exact ih
      · rfl

section

variable {names : MemberType S} {indexes : MemberType N} {id : String} {definition : List (S × N)}

lemma tryDescribe_defined [DecidableEq N] (index : N) :
    (defined names indexes id definition).tryDescribe index =
      (definition.find? (·.2 == index)).map Prod.fst :=
  findIdx?_bind_getElem? definition Prod.snd Prod.fst (· == index)

lemma tryIndexOf_defined [DecidableEq S] (name : S) :
    (defined names indexes id definition).tryIndexOf name =
      (definition.find? (·.1 == name)).map Prod.snd :=
  findIdx?_bind_getElem? definition Prod.fst Prod.snd (· == name)

end

/-- **Looking up by places is looking for a pair**, if no key occurs twice. -/
lemma bind_getElem?_eq_some_iff [DecidableEq α] {l : List γ} {f : γ → α} {g : γ → β}
    (hn : (l.map f).Nodup) {a : α} {b : β} :
    ((l.map f).findIdx? (· == a)).bind (fun place => (l.map g)[place]?) = some b ↔
      ∃ entry ∈ l, f entry = a ∧ g entry = b := by
  rw [findIdx?_bind_getElem? l f g (· == a), Option.map_eq_some_iff]
  constructor
  · rintro ⟨entry, hfind, hb⟩
    exact ⟨entry, List.mem_of_find?_eq_some hfind, by simpa using List.find?_some hfind, hb⟩
  · rintro ⟨entry, hmem, rfl, rfl⟩
    rcases hfind : l.find? (fun other => f other == f entry) with _ | found
    · simpa using List.find?_eq_none.mp hfind entry hmem
    · have hsame : f found = f entry := by simpa using List.find?_some hfind
      refine ⟨found, rfl, congrArg g ?_⟩
      exact List.inj_on_of_nodup_map hn (List.mem_of_find?_eq_some hfind) hmem hsame

/-! ## Sides -/

/-- **How a side of an enumeration answers.**  `Pairs` says which value is paired with which of the other
side; `lookup` and `total` are the two lookups of the enumeration which begin on this side, and `fallback` is
what stands for a missing value of the other side. -/
structure Side.Answers [DecidableEq α] (side : Side α) (Pairs : α → β → Prop) (lookup : α → Option β)
    (total : α → β) (fallback : β) : Prop where
  /-- Lookups find what is paired. -/
  lookup_iff : ∀ a b, Pairs a b ↔ lookup a = some b
  /-- The values of the side are those which are paired. -/
  contains : ∀ a, side.contains a = (lookup a).isSome
  validate : ∀ shown a, side.validate shown a = .ok () ↔ (lookup a).isSome = true
  enumerator : ∀ shown a, a ∈ (side.enumerator shown).list ↔ (lookup a).isSome = true
  enumeratorValidate : ∀ shown a, (side.enumerator shown).validate a = .ok () ↔ (lookup a).isSome = true
  /-- A value which is paired with nothing leads to the fallback, also if that is a member itself. -/
  paired : ∀ a b, Pairs a b → total a = b
  unpaired : ∀ a, (∀ b, ¬ Pairs a b) → total a = fallback

lemma Side.validate_eq_ok_iff [DecidableEq α] {side : Side α} {shown : α → String} {a : α} :
    side.validate shown a = .ok () ↔ side.contains a = true := by
  unfold Side.validate
  split_ifs with h
  · simp only [h]
  · simp only [h, reduceCtorEq]

/-- A side answers by the pairs if its lookups do, and if its values are those which lookups find. -/
lemma Side.answers_of_lookup [DecidableEq α] {side : Side α} {Pairs : α → β → Prop} {lookup : α → Option β}
    {total : α → β} {fallback : β} (hl : ∀ a b, Pairs a b ↔ lookup a = some b)
    (hv : ∀ a, a ∈ side.values ↔ ∃ b, Pairs a b) (ht : ∀ a, total a = (lookup a).getD fallback) :
    side.Answers Pairs lookup total fallback := by
  have hsome : ∀ a, a ∈ side.values ↔ (lookup a).isSome = true := by
    intro a
    simp only [hv, hl, Option.isSome_iff_exists]
  have hcontains : ∀ a, side.contains a = (lookup a).isSome := by
    intro a
    rw [Side.contains, Bool.eq_iff_iff, List.contains_iff_mem, hsome]
  have hvalidate : ∀ shown a, side.validate shown a = .ok () ↔ (lookup a).isSome = true := by
    intro shown a
    rw [Side.validate_eq_ok_iff, hcontains]
  refine ⟨hl, hcontains, hvalidate, fun _ => hsome, hvalidate, ?_, ?_⟩
  · intro a b hab
    rw [ht, (hl a b).mp hab, Option.getD_some]
  · intro a hnone
    have hlookup : lookup a = none := Option.eq_none_iff_forall_ne_some.mpr fun b hb =>
      hnone b ((hl a b).mpr hb)
    rw [ht, hlookup, Option.getD_none]

/-! ## Enumerations -/

variable [DecidableEq S] [DecidableEq N]

/-- **How an enumeration answers** which was registered for a definition with settings. -/
structure Faithful (names : MemberType S) (indexes : MemberType N) (definition : List (S × N))
    (settings : List (Setting S N)) (enumeration : Enumeration S N) : Prop where
  /-- The members are the definition, in order. -/
  members : enumeration.members = definition
  sameLength : enumeration.description.values.length = enumeration.index.values.length
  /-- The place of a name is one of an index, too. -/
  nameInBounds : ∀ name place, enumeration.description.values.findIdx? (· == name) = some place →
    place < enumeration.index.values.length
  indexInBounds : ∀ index place, enumeration.index.values.findIdx? (· == index) = some place →
    place < enumeration.description.values.length
  ofNames : enumeration.description.Answers (fun name index => (name, index) ∈ definition)
    enumeration.tryIndexOf enumeration.indexOf enumeration.index.undefined
  ofIndexes : enumeration.index.Answers (fun index name => (name, index) ∈ definition)
    enumeration.tryDescribe enumeration.describe enumeration.description.undefined
  nameOf : enumeration.nameOf = enumeration.describe
  /-- The undefined values are those of the last setting, and else those of the types. -/
  undefinedIndex : enumeration.index.undefined =
    (settings.getLast?.map (·.index)).getD indexes.undefined
  undefinedName : enumeration.description.undefined =
    (settings.getLast?.map (·.name)).getD names.undefined

/-- **A registered enumeration is faithful to its definition**: its lookups are inverse to each other and
find the pairs of the definition, and all its views tell the same members. -/
theorem faithful_of_register {names : MemberType S} {indexes : MemberType N} {id : String}
    {definition : List (S × N)} {settings : List (Setting S N)} {enumeration : Enumeration S N}
    (h : (register names indexes id definition settings).outcome = .ok enumeration) :
    enumeration.Faithful names indexes definition settings := by
  obtain ⟨hrules, rfl⟩ := outcome_register_eq_ok_iff.mp h
  obtain ⟨-, -, hi, hn⟩ := reason?_eq_none_iff.mp hrules
  rw [foldl_adjust]
  have hlength : (definition.map Prod.fst).length = (definition.map Prod.snd).length := by
    rw [List.length_map, List.length_map]
  have hmembers : (defined names indexes id definition).members = definition := members_defined
  refine ⟨hmembers, hlength, ?_, ?_, ?_, ?_, rfl, rfl, rfl⟩
  · intro name place hplace
    exact hlength ▸ (List.findIdx?_eq_some_iff_getElem.mp hplace).1
  · intro index place hplace
    exact hlength ▸ (List.findIdx?_eq_some_iff_getElem.mp hplace).1
  · refine Side.answers_of_lookup ?_ ?_ (fun _ => rfl)
    · intro name index
      refine Iff.trans ?_ (bind_getElem?_eq_some_iff hn).symm
      simp
    · intro name
      simp [defined, Side.ofValues]
  · refine Side.answers_of_lookup ?_ ?_ (fun _ => rfl)
    · intro index name
      refine Iff.trans ?_ (bind_getElem?_eq_some_iff hi).symm
      simp
    · intro index
      simp [defined, Side.ofValues]

/-- Colours of which the undefined values are those of a member. -/
theorem faithful_of_register_colour :
    ∃ enumeration,
      (register (.text "&str") (.primitive .i8) "colour" [("Red", 1), ("Green", -3)]
        [⟨7, "None"⟩, ⟨1, "Red"⟩]).outcome = .ok enumeration ∧
      enumeration.tryDescribe (-3) = some "Green" ∧ enumeration.tryDescribe 7 = none ∧
      enumeration.describe 7 = "Red" := by
  have hok : (register (.text "&str") (.primitive .i8) "colour" [("Red", 1), ("Green", -3)]
      [⟨7, "None"⟩, ⟨1, "Red"⟩]).outcome = .ok
        ⟨⟨"colour", "i8", 1, [1, -3]⟩, ⟨"colour", "&str", "Red", ["Red", "Green"]⟩⟩ := by decide
  have hfaithful := faithful_of_register hok
  refine ⟨_, hok, (hfaithful.ofIndexes.lookup_iff (-3) "Green").mp (by decide), by decide, ?_⟩
  exact hfaithful.ofIndexes.unpaired 7 (by simp)

end EnumTables.Enumeration
