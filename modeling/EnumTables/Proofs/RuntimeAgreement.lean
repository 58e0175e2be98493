import EnumTables.Proofs.Lookups
import EnumTables.Proofs.Tables

/-!
# Companions agree with enumerations at run time

The code of a companion looks its constants up in tables of its own, and also registers an enumeration which
can be looked up in.  Both give the same answers.

* `Reading.validate` — how the code checks a value.
* `Reading.Agrees` — what the code and the enumeration have to do with each other.
* `enumerationOf` — the enumeration which is registered for a group.
* `agrees_enumerationOf` — they agree if the names tell the constants apart.
-/

namespace EnumTables

/-! ## Generated code at run time -/

namespace Companion

open EnumTables.Enumeration EnumTables.Group

/-- **How `validate` checks a value** of a type which is called `id`: what `is_valid` does not match is
rejected, and all values are named which were expected. -/
def Reading.validate (reading : Reading) (id : String) (value : Int) : Except Rejection Unit :=
  if reading.isValid value then .ok ()
  else .error (.value id ("[" ++ ", ".intercalate (reading.expected.map toString) ++ "]") (toString value))

/-- **Generated code and an enumeration agree** in all answers which both of them give. -/
structure Reading.Agrees (reading : Reading) (id : String) (enumeration : Enumeration String Int) : Prop where
  /-- Values have the same names. -/
  describe : ∀ value, enumeration.tryDescribe value = reading.nameOf? value
  /-- The same values belong to a constant. -/
  contains : ∀ value, enumeration.index.contains value = reading.isValid value
  /-- The same values are rejected, in the same words. -/
  validate : ∀ value, enumeration.index.validate toString value = reading.validate id value
  /-- The value of a name is that of the constant which the name selects. -/
  indexOf : ∀ name value, enumeration.tryIndexOf name = some value →
    ∃ place, reading.Selects name place ∧ reading.values[place]? = some value
  /-- A name selects a constant with the value of which the first constant's name is given. -/
  selected : ∀ (name : String) (place : Nat) (value : Int), reading.Selects name place →
    reading.values[place]? = some value →
      ∃ first title, reading.FirstAt value first ∧ reading.names[first]? = some title ∧
        enumeration.tryDescribe value = some title

variable {group : Group} {registry : Bool} {id : String}

/-- The enumeration which is registered for a group. -/
def enumerationOf (group : Group) (id : String) : Enumeration String Int :=
  defined (.text "&str") (.primitive group.repr) id (ofGroup group).entries

lemma entries_fst : (ofGroup group).entries.map Prod.fst = group.unique.map (·.name) := by
  simp only [ofGroup, List.map_map, Function.comp_def]

lemma entries_snd : (ofGroup group).entries.map Prod.snd = (ofGroup group).known := by
  simp only [ofGroup, List.map_map, Function.comp_def]

/-- The first of all constants is a first constant. -/
lemma entries_ne_nil (hc : group.constants ≠ []) : (ofGroup group).entries ≠ [] := by
  obtain ⟨constant, rest, hcons⟩ := List.exists_cons_of_ne_nil hc
  simp only [ofGroup, unique, firsts, hcons, firstsFrom, List.not_mem_nil, if_false, List.map_cons, ne_eq,
    reduceCtorEq, not_false_eq_true]

/-- **What the generated code registers is accepted**, if the names tell the constants apart. -/
lemma outcome_entries (hid : id ≠ "") (hc : group.constants ≠ [])
    (hn : (group.constants.map (·.name)).Nodup) :
    (register (.text "&str") (.primitive group.repr) id (ofGroup group).entries []).outcome =
      .ok (enumerationOf group id) := by
  refine outcome_register hid (entries_ne_nil hc) ?_ ?_
  · rw [entries_snd]
    exact nodup_values_firsts group.constants
  · rw [entries_fst]
    exact hn.sublist ((firstsFrom_sublist [] group.constants).map _)

lemma tryDescribe_enumerationOf (value : Int) :
    (enumerationOf group id).tryDescribe value = ((ofGroup group).reading registry).nameOf? value := by
  rw [enumerationOf, tryDescribe_defined, nameOf?_reading, ← find?_firsts]
  simp only [ofGroup, List.find?_map, Option.map_map, Function.comp_def, unique]

lemma values_enumerationOf :
    (enumerationOf group id).index.values = ((ofGroup group).reading registry).expected :=
  entries_snd

lemma contains_enumerationOf (value : Int) :
    (enumerationOf group id).index.contains value = ((ofGroup group).reading registry).isValid value :=
  congrArg (·.contains value) entries_snd

lemma validate_enumerationOf (value : Int) :
    (enumerationOf group id).index.validate toString value =
      ((ofGroup group).reading registry).validate id value := by
  have hid : (enumerationOf group id).index.id = id := rfl
  rw [Side.validate, contains_enumerationOf, values_enumerationOf, hid]
  rfl

/-- A name which is registered is that of a constant with the registered value. -/
lemma exists_constant_of_tryIndexOf {name : String} {value : Int}
    (h : (enumerationOf group id).tryIndexOf name = some value) :
    ∃ constant ∈ group.constants, constant.name = name ∧ constant.value = value := by
  rw [enumerationOf, tryIndexOf_defined, Option.map_eq_some_iff] at h
  obtain ⟨entry, hfound, rfl⟩ := h
  obtain ⟨constant, hmem, rfl⟩ := List.mem_map.mp (List.mem_of_find?_eq_some hfound)
  exact ⟨constant, (firstsFrom_sublist [] group.constants).subset hmem,
    by simpa using List.find?_some hfound, rfl⟩

/-- **The code of a group agrees with the enumeration of the group.** -/
theorem agrees_enumerationOf (hn : (group.constants.map (·.name)).Nodup) :
    ((ofGroup group).reading registry).Agrees id (enumerationOf group id) where
  describe := tryDescribe_enumerationOf
  contains := contains_enumerationOf
  validate := validate_enumerationOf
  indexOf name value h := by
    obtain ⟨constant, hmem, rfl, rfl⟩ := exists_constant_of_tryIndexOf h
    obtain ⟨place, hplace⟩ := List.mem_iff_getElem?.mp hmem
    refine ⟨place, selects_of_nodup hn ?_, ?_⟩
    · simp only [reading, ofGroup, List.getElem?_map, hplace, Option.map_some]
    · simp only [reading, ofGroup, List.getElem?_map, hplace, Option.map_some]
  selected name place value _ h := by
    obtain ⟨first, title, hfirst, htitle⟩ := exists_first_name h
    exact ⟨first, title, hfirst, htitle,
      ((tryDescribe_enumerationOf value).trans (nameOf?_of_firstAt hfirst)).trans htitle⟩

end Companion

/-! ## Companions of texts -/

namespace Generation

open EnumTables.Companion EnumTables.Enumeration EnumTables.Group EnumTables.Source

variable {source type text time : String} {settings : Settings} {output : Output}

/-- What is generated is the code of the companion of the group. -/
lemma exists_of_outcome_ofText (h : (ofText source type text time settings).outcome = .ok output) :
    ∃ group runtime, groupOf source type text settings.convention = .ok group ∧
      pathOf settings.runtime = .ok runtime ∧ output.code = codeOf group runtime time settings := by
  unfold ofText at h
  rcases hgroup : groupOf source type text settings.convention with fault | group
  · rw [hgroup] at h
    cases h
  · rcases hruntime : pathOf settings.runtime with misread | runtime
    · simp only [hgroup, hruntime, reduceCtorEq] at h
    · simp only [hgroup, hruntime, Except.ok.injEq] at h
      exact ⟨group, runtime, rfl, rfl, h ▸ rfl⟩

/-- A group of a text has constants. -/
lemma constants_ne_nil {convention : Text.NameCase} {group : Group}
    (h : groupOf source type text convention = .ok group) : group.constants ≠ [] := by
  obtain ⟨file, parsed, -, hparsed, hrename⟩ := groupOf_eq_ok_iff.mp h
  obtain ⟨subject, hs, hm⟩ := exists_subject_of_ofFile hparsed
  obtain ⟨constants, hlists, rfl⟩ := (ofFile_eq_ok_iff hs hm).mp hparsed
  obtain ⟨rfl, -⟩ := rename_eq_ok_iff.mp hrename
  rw [named, ne_eq, List.map_eq_nil_iff]
  rintro rfl
  exact hm (List.forall₂_nil_right_iff.mp hlists)

/-- **Generated code agrees with the enumeration which it registers.**  If code with an accessor of the
enumeration is generated, its tables are read from it, with lists of all constants which the text declares.
What the accessor registers, under the name of the type in its module, is accepted; the enumeration has the
first constant of every value for its members, in order; and it agrees with the tables. -/
theorem agrees_of_ofText (hregistry : settings.registry = true)
    (h : (ofText source type text time settings).outcome = .ok output) :
    ∃ group runtime reading entries, groupOf source type text settings.convention = .ok group ∧
      Declared text type settings.convention group ∧ pathOf settings.runtime = .ok runtime ∧
      output.code = fileText ((ofGroup group).code runtime true)
        (if settings.timestamp then some time else none) ∧
      readCode (pathTokens runtime) type group.repr ((ofGroup group).code runtime true) = some reading ∧
      reading.Lists type group.constants ∧ reading.registered = some entries ∧
      ∀ modulePath, ∃ enumeration,
        (register (.text "&str") (.primitive group.repr) (modulePath ++ "::" ++ type) entries []).outcome =
          .ok enumeration ∧
        enumeration.members =
          ((List.range group.constants.length).filterMap fun place =>
            group.constants[place]?.filter fun constant =>
              constant.value ∉ (group.constants.take place).map (·.value)).map
            (fun constant => (constant.name, constant.value)) ∧
        reading.Agrees (modulePath ++ "::" ++ type) enumeration := by
  obtain ⟨group, runtime, hgroup, hruntime, hcode⟩ := exists_of_outcome_ofText h
  obtain ⟨hread, hlists, hnames⟩ := exists_reading_of_groupOf hgroup runtime true
  rw [codeOf, hregistry] at hcode
  refine ⟨group, runtime, _, _, hgroup, declared_of_groupOf hgroup, hruntime, hcode, hread, hlists, rfl,
    fun modulePath => ?_⟩
  have hid : modulePath ++ "::" ++ type ≠ "" := by simp
  refine ⟨_, outcome_entries hid (constants_ne_nil hgroup) hnames, ?_, agrees_enumerationOf hnames⟩
  rw [← firsts_eq_filterMap]
  exact Enumeration.members_defined

/-- The code for a text in which a constant is another name for the one before it. -/
theorem agrees_of_ofText_alias :
    ∃ (settings : Settings) (output : Output), settings.registry = true ∧
      (ofText "a.rs" "A" "struct A(i8); const B: A = A(-1); const C: A = B;" "" settings).outcome =
        .ok output ∧
      ∃ group runtime reading, output.code = fileText ((ofGroup group).code runtime true) none ∧
        readCode (pathTokens runtime) "A" group.repr ((ofGroup group).code runtime true) = some reading ∧
        ∃ enumeration, reading.Agrees "m::A" enumeration := by
  have hok : (ofText "a.rs" "A" "struct A(i8); const B: A = A(-1); const C: A = B;" ""
      { registry := true, timestamp := false }).outcome.isOk = true := by decide +kernel
  rcases h : (ofText "a.rs" "A" "struct A(i8); const B: A = A(-1); const C: A = B;" ""
      { registry := true, timestamp := false }).outcome with fault | output
  · rw [h] at hok
    cases hok
  · obtain ⟨group, runtime, reading, entries, -, -, -, hcode, hread, -, -, hmodules⟩ := agrees_of_ofText rfl h
    obtain ⟨enumeration, -, -, hagrees⟩ := hmodules "m"
    exact ⟨_, output, rfl, h, group, runtime, reading, hcode, hread, enumeration, hagrees⟩

end Generation

end EnumTables
