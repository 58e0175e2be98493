import EnumTables.Generation.Basic
import EnumTables.Proofs.CompanionReading
import EnumTables.Proofs.Distinctness
import EnumTables.Proofs.Guard

/-!
# The tables of a companion agree

The tables of a companion are made one by one, some of all constants and some of the first constant of each
value.  Read from the code again, they say the same, since a table without the later constants of a value gives
what the whole table would give, and since no two constants of a group which was renamed have one name.

* `lookup_map`, `find?_eq_getElem` — looking up in a table is finding the first entry with a key.
* `Reading.fromName?`, `Reading.nameOf?`, `Reading.isValid` — what the code answers.
* `RefersTo`, `Reading.Lists` — the lists have the entries of the constants, in order.
* `Reading.Selects`, `Reading.FirstAt` — which constant a table gives, by its place.
* `Reading.Consistent` — what the tables have to do with each other.
* `consistent_reading` — they agree if names and identifiers tell the constants apart, as they do in a group of
  a text.
-/

namespace EnumTables

/-! ## Tables -/

/-- A table is looked something up in by its keys. -/
lemma lookup_map {α β κ : Type} [BEq κ] [LawfulBEq κ] (l : List α) (f : α → κ) (g : α → β) (k : κ) :
    (l.map fun a => (f a, g a)).lookup k = (l.find? (f · == k)).map g := by
  induction l with
  | nil => rfl
  | cons a rest ih =>
      rw [List.map_cons, List.lookup_cons, List.find?_cons, BEq.comm, ih]
      cases f a == k <;> rfl

/-- What is looked up by a value which nothing before it has is found. -/
lemma find?_eq_getElem {α κ : Type} [BEq κ] [LawfulBEq κ] {l : List α} {f : α → κ} {k : κ} {j : Nat}
    (hj : (l.map f)[j]? = some k) (hfirst : ∀ i < j, (l.map f)[i]? ≠ some k) :
    l.find? (f · == k) = l[j]? := by
  rw [List.getElem?_map, Option.map_eq_some_iff] at hj
  obtain ⟨a, ha, hk⟩ := hj
  obtain ⟨hlt, rfl⟩ := List.getElem?_eq_some_iff.mp ha
  rw [ha, List.find?_eq_some_iff_getElem]
  refine ⟨by simpa using hk, j, hlt, rfl, ?_⟩
  intro i hi
  have hne := hfirst i hi
  rw [List.getElem?_map, List.getElem?_eq_getElem (hi.trans hlt), Option.map_some] at hne
  simpa using hne

/-! ## Answers -/

namespace Companion

open EnumTables.Constants EnumTables.Group EnumTables.Source

namespace Reading

/-- The constant which `from_name` gives, by the first arm of the name. -/
def fromName? (reading : Reading) (name : String) : Option Path :=
  reading.byName.lookup name

/-- The name which `name` gives, by the first arm of the value. -/
def nameOf? (reading : Reading) (value : Int) : Option String :=
  reading.byValue.lookup value

/-- Whether `is_valid` matches a value. -/
def isValid (reading : Reading) (value : Int) : Bool :=
  reading.valid.contains value

end Reading

/-! ## Lists -/

/-- **A path refers to a constant** of a type: it is the identifier, behind the type if the constant is
associated, and source files resolve it to the key of the constant. -/
structure RefersTo (type : String) (path : Path) (constant : Constant) : Prop where
  written : path = ⟨false, (if constant.associated then [type, constant.ident.text]
    else [constant.ident.text]).map fun name => ⟨name, .none⟩⟩
  resolved : keyOf? type path = some (if constant.associated then .associated constant.ident.text
    else .free constant.ident.text)

namespace Reading

/-- **The lists are those of the constants** of a type, in order. -/
structure Lists (reading : Reading) (type : String) (constants : List Constant) : Prop where
  /-- Every list has one entry for each constant. -/
  lengths : reading.guard.length = constants.length ∧ reading.list.length = constants.length ∧
    reading.names.length = constants.length ∧ reading.values.length = constants.length
  /-- The guard asserts of each constant that it has its value, and else says that it changed. -/
  guarded : ∀ (place : Nat) (constant : Constant), constants[place]? = some constant →
    ∃ subject, RefersTo type subject constant ∧
      reading.guard[place]? = some ⟨subject, constant.value,
        "`" ++ constant.ident.text ++ "` changed its value, re-run enumgen"⟩
  /-- The entries at a place are those of the constant there. -/
  entries : ∀ (place : Nat) (constant : Constant), constants[place]? = some constant →
    (∃ path, RefersTo type path constant ∧ reading.list[place]? = some path) ∧
      reading.names[place]? = some constant.name ∧ reading.values[place]? = some constant.value
  /-- The constants are told apart by the way in which they are referred to. -/
  distinct : reading.list.Nodup

/-- **The table of names selects the constant at a place.** -/
def Selects (reading : Reading) (name : String) (place : Nat) : Prop :=
  ∃ path, reading.list[place]? = some path ∧ reading.fromName? name = some path

/-- **A place is the first one of a value.** -/
def FirstAt (reading : Reading) (value : Int) (place : Nat) : Prop :=
  reading.values[place]? = some value ∧ ∀ earlier < place, reading.values[earlier]? ≠ some value

/-- **The tables agree** with the constants of a type and with each other. -/
structure Consistent (reading : Reading) (type : String) (constants : List Constant) : Prop
    extends Lists reading type constants where
  /-- Every name selects its own constant. -/
  selects : ∀ (place : Nat) (name : String), reading.names[place]? = some name → reading.Selects name place
  /-- Other names select nothing. -/
  selects_only : ∀ name, name ∉ reading.names → reading.fromName? name = none
  /-- The valid values are the listed ones. -/
  valid : ∀ value, reading.isValid value = true ↔ value ∈ reading.values
  /-- The valid values are those with a name. -/
  named : ∀ value, (reading.nameOf? value).isSome = reading.isValid value
  /-- The name of a value is that of the first constant which has it. -/
  first : ∀ value place, reading.FirstAt value place → reading.nameOf? value = reading.names[place]?
  /-- The name of a listed value selects a constant with this value. -/
  round_trip : ∀ (place : Nat) (value : Int), reading.values[place]? = some value →
    ∃ name other, reading.nameOf? value = some name ∧ reading.Selects name other ∧
      reading.values[other]? = some value

end Reading

/-! ## Tables of groups -/

variable {group : Group} {registry : Bool}

lemma fromName?_reading (name : String) :
    ((ofGroup group).reading registry).fromName? name =
      (group.constants.find? (·.name == name)).map (reference group.ident.text) :=
  lookup_map _ _ _ _

lemma nameOf?_reading (value : Int) :
    ((ofGroup group).reading registry).nameOf? value =
      (group.constants.find? (·.value == value)).map (·.name) := by
  rw [← find?_firsts]
  exact lookup_map _ _ _ _

lemma isValid_reading (value : Int) :
    ((ofGroup group).reading registry).isValid value = true ↔
      value ∈ ((ofGroup group).reading registry).values := by
  rw [Reading.isValid, List.contains_iff_mem]
  exact mem_values_firsts

lemma isSome_nameOf?_reading (value : Int) :
    (((ofGroup group).reading registry).nameOf? value).isSome =
      ((ofGroup group).reading registry).isValid value := by
  rw [Bool.eq_iff_iff, isValid_reading, nameOf?_reading, Option.isSome_map, List.find?_isSome]
  simp only [reading, ofGroup, List.mem_map, beq_iff_eq]

/-- A value which is listed has a first place. -/
lemma exists_firstAt {reading : Reading} {value : Int} {place : Nat}
    (h : reading.values[place]? = some value) : ∃ first, reading.FirstAt value first := by
  induction place using Nat.strong_induction_on with
  | _ place ih =>
      by_cases hearlier : ∃ earlier < place, reading.values[earlier]? = some value
      · obtain ⟨earlier, hlt, he⟩ := hearlier
        exact ih earlier hlt he
      · exact ⟨place, h, fun earlier hlt he => hearlier ⟨earlier, hlt, he⟩⟩

lemma nameOf?_of_firstAt {value : Int} {place : Nat}
    (h : ((ofGroup group).reading registry).FirstAt value place) :
    ((ofGroup group).reading registry).nameOf? value =
      ((ofGroup group).reading registry).names[place]? := by
  rw [nameOf?_reading, find?_eq_getElem h.1 h.2]
  exact List.getElem?_map.symm

/-- A value which is listed has a first place, and there is a name at that place. -/
lemma exists_first_name {value : Int} {place : Nat}
    (h : ((ofGroup group).reading registry).values[place]? = some value) :
    ∃ first title, ((ofGroup group).reading registry).FirstAt value first ∧
      ((ofGroup group).reading registry).names[first]? = some title := by
  obtain ⟨first, hfirst⟩ := exists_firstAt h
  have hlt : first < ((ofGroup group).reading registry).names.length := by
    have hbound := (List.getElem?_eq_some_iff.mp hfirst.1).1
    simpa only [reading, ofGroup, List.length_map] using hbound
  exact ⟨first, _, hfirst, List.getElem?_eq_getElem hlt⟩

/-- Distinct names select their own constants. -/
lemma selects_of_nodup (hn : (group.constants.map (·.name)).Nodup) {place : Nat} {name : String}
    (h : ((ofGroup group).reading registry).names[place]? = some name) :
    ((ofGroup group).reading registry).Selects name place := by
  have hfirst : ∀ earlier < place, (group.constants.map (·.name))[earlier]? ≠ some name := by
    intro earlier hlt he
    have hbound := (List.getElem?_eq_some_iff.mp he).1
    exact hlt.ne ((List.getElem?_inj hbound hn).mp (he.trans h.symm))
  obtain ⟨constant, hconstant, -⟩ := Option.map_eq_some_iff.mp (List.getElem?_map.symm.trans h)
  refine ⟨reference group.ident.text constant, ?_, ?_⟩
  · rw [reading, ofGroup, List.getElem?_map, hconstant, Option.map_some]
  · rw [fromName?_reading, find?_eq_getElem h hfirst, hconstant, Option.map_some]

/-- Constants with distinct identifiers are referred to in distinct ways. -/
lemma nodup_references (hi : (group.constants.map (·.ident.text)).Nodup) :
    (group.constants.map (reference group.ident.text)).Nodup := by
  refine List.Nodup.of_map (fun path => path.segments.getLast?.map (·.name)) ?_
  have hlast : ∀ constant : Constant,
      (reference group.ident.text constant).segments.getLast?.map (·.name) =
        some constant.ident.text := by
    intro constant
    unfold reference
    split_ifs <;> rfl
  simp only [List.map_map, Function.comp_def, hlast]
  simpa only [List.map_map, Function.comp_def] using hi.map (Option.some_injective _)

/-- What stands for a constant in the tables refers to it, unless a word for a place is its name. -/
lemma refersTo_reference {type : String} {constant : Constant} (htype : type ∉ placeWords)
    (hname : constant.ident.text ∉ placeWords) : RefersTo type (reference type constant) constant where
  written := by
    unfold reference
    split_ifs <;> rfl
  resolved := keyOf?_reference htype hname

lemma lists_reading (htype : group.ident.text ∉ placeWords)
    (hnames : ∀ constant ∈ group.constants, constant.ident.text ∉ placeWords)
    (hi : (group.constants.map (·.ident.text)).Nodup) :
    ((ofGroup group).reading registry).Lists group.ident.text group.constants where
  lengths := by simp only [reading, ofGroup, List.length_map, and_self]
  guarded place constant h := by
    refine ⟨_, refersTo_reference htype (hnames constant (List.mem_of_getElem? h)), ?_⟩
    simp only [reading, ofGroup, assertion, List.getElem?_map, h, Option.map_some]
  entries place constant h := by
    refine ⟨⟨_, refersTo_reference htype (hnames constant (List.mem_of_getElem? h)), ?_⟩, ?_, ?_⟩ <;>
      simp only [reading, ofGroup, List.getElem?_map, h, Option.map_some]
  distinct := nodup_references hi

/-- **The tables of a group agree**, if its names and its identifiers tell the constants apart. -/
theorem consistent_reading (hlists : ((ofGroup group).reading registry).Lists group.ident.text group.constants)
    (hn : (group.constants.map (·.name)).Nodup) :
    ((ofGroup group).reading registry).Consistent group.ident.text group.constants where
  toLists := hlists
  selects _ _ := selects_of_nodup hn
  selects_only name h := by
    rw [fromName?_reading, Option.map_eq_none_iff, List.find?_eq_none]
    intro constant hc
    rw [beq_iff_eq]
    rintro rfl
    exact h (List.mem_map_of_mem hc)
  valid := isValid_reading
  named := isSome_nameOf?_reading
  first _ _ := nameOf?_of_firstAt
  round_trip place value h := by
    obtain ⟨first, title, hfirst, htitle⟩ := exists_first_name h
    exact ⟨title, first, (nameOf?_of_firstAt hfirst).trans htitle, selects_of_nodup hn htitle, hfirst.1⟩

end Companion

/-! ## Companions of texts -/

namespace Generation

open EnumTables.Companion EnumTables.Constants EnumTables.Group EnumTables.Source

variable {source type text : String} {convention : Text.NameCase} {group : Group}

/-- The group of a text is that of the file which the text says, renamed. -/
lemma groupOf_eq_ok_iff :
    groupOf source type text convention = .ok group ↔
      ∃ file parsed, fileOf text = .ok file ∧ ofFile file type = .ok parsed ∧
        parsed.rename convention = .ok group := by
  unfold groupOf
  rcases fileOf text with misread | file
  · simp [Except.mapError, bind, Except.bind]
  · rcases hparsed : ofFile file type with failure | parsed
    · simp [hparsed, Except.mapError, bind, Except.bind]
    · cases hrename : parsed.rename convention <;>
        simp [hparsed, hrename, Except.mapError, bind, Except.bind]

/-- **The constants of a group are those which a text declares** with the type, in order: each has the value
which its declaration means, and the name which a convention makes of its identifier. -/
def Declared (text type : String) (convention : Text.NameCase) (group : Group) : Prop :=
  ∃ file subject, fileOf text = .ok file ∧ subject? file type = .ok subject ∧ group.repr = subject.repr ∧
    List.Forall₂
      (fun declaration constant => constant.ident = declaration.ident ∧
        constant.associated = declaration.associated ∧
        constant.name = convention.apply declaration.ident.text ∧
        KeyMeans (scopeOf file type subject) declaration.key constant.value)
      (membersOf (declarations file type)) group.constants

lemma declared_of_groupOf (h : groupOf source type text convention = .ok group) :
    Declared text type convention group := by
  obtain ⟨file, parsed, hfile, hparsed, hrename⟩ := groupOf_eq_ok_iff.mp h
  obtain ⟨subject, hs, hm⟩ := exists_subject_of_ofFile hparsed
  obtain ⟨constants, hlists, rfl⟩ := (ofFile_eq_ok_iff hs hm).mp hparsed
  obtain ⟨rfl, -⟩ := rename_eq_ok_iff.mp hrename
  refine ⟨file, subject, hfile, hs, rfl, ?_⟩
  rw [named, List.forall₂_map_right_iff]
  refine hlists.imp ?_
  intro declaration constant hl
  exact ⟨hl.ident, hl.associated, congrArg (convention.apply ·.text) hl.ident, hl.value⟩

lemma name_of_groupOf (h : groupOf source type text convention = .ok group) :
    group.ident.text = type ∧ type ∉ placeWords := by
  obtain ⟨file, parsed, hfile, hparsed, hrename⟩ := groupOf_eq_ok_iff.mp h
  obtain ⟨hname, htype⟩ := name_of_ofFile hfile hparsed
  obtain ⟨rfl, -⟩ := rename_eq_ok_iff.mp hrename
  exact ⟨hname, not_mem_placeWords htype⟩

/-- A constant of a text is not called by a word for a place. -/
lemma not_mem_placeWords_of_groupOf (h : groupOf source type text convention = .ok group) :
    ∀ constant ∈ group.constants, constant.ident.text ∉ placeWords := by
  obtain ⟨file, parsed, hfile, hparsed, hrename⟩ := groupOf_eq_ok_iff.mp h
  obtain ⟨rfl, -⟩ := rename_eq_ok_iff.mp hrename
  refine List.forall_mem_map.mpr fun constant hmem => ?_
  change constant.ident.text ∉ placeWords
  by_cases hblank : constant.ident.text = "_"
  · rw [hblank]
    decide
  · exact not_mem_placeWords (notReserved_of_mem hfile hparsed hmem hblank)

/-- **The code which is made for a text is read**, and its lists are those of the constants. -/
lemma exists_reading_of_groupOf (h : groupOf source type text convention = .ok group) (runtime : Path)
    (registry : Bool) :
    readCode (pathTokens runtime) type group.repr ((ofGroup group).code runtime registry) =
        some ((ofGroup group).reading registry) ∧
      ((ofGroup group).reading registry).Lists type group.constants ∧
      (group.constants.map (·.name)).Nodup := by
  obtain ⟨hname, htype⟩ := name_of_groupOf h
  obtain ⟨-, parsed, -, -, hrename⟩ := groupOf_eq_ok_iff.mp h
  obtain ⟨hgroup, hnames⟩ := rename_eq_ok_iff.mp hrename
  have hidents : (group.constants.map (·.ident.text)).Nodup := by
    subst hgroup
    exact nodup_idents_named hnames
  have hread := readCode_code (readable_ofGroup group) runtime registry
  have hlists : ((ofGroup group).reading registry).Lists group.ident.text group.constants :=
    lists_reading (hname ▸ htype) (not_mem_placeWords_of_groupOf h) hidents
  exact ⟨hname ▸ hread, hname ▸ hlists, hnames⟩

/-- **The tables which are made of a text agree.**  The constants of the group are those which are declared
in the text.  Whatever the crate is whose errors are used, and with the accessor of the enumeration or without,
the tables are read from the code, and agree with these constants and with each other. -/
theorem consistent_of_groupOf (h : groupOf source type text convention = .ok group) :
    Declared text type convention group ∧
    ∀ runtime registry, ∃ reading,
      readCode (pathTokens runtime) type group.repr ((ofGroup group).code runtime registry) = some reading ∧
        reading.Consistent type group.constants := by
  refine ⟨declared_of_groupOf h, fun runtime registry => ?_⟩
  obtain ⟨hread, hlists, hnames⟩ := exists_reading_of_groupOf h runtime registry
  obtain ⟨rfl, -⟩ := name_of_groupOf h
  exact ⟨_, hread, consistent_reading hlists hnames⟩

/-- A group in which a constant is another name for the one before it. -/
theorem consistent_of_groupOf_alias :
    ∃ group, groupOf "a.rs" "A" "struct A(i8); const B: A = A(-1); const C: A = B;" .snake = .ok group ∧
      ∃ reading, readCode (pathTokens (.ofName "enums")) "A" group.repr
          ((ofGroup group).code (.ofName "enums") true) = some reading ∧
        reading.Consistent "A" group.constants := by
  have hok : (groupOf "a.rs" "A" "struct A(i8); const B: A = A(-1); const C: A = B;" .snake).isOk =
      true := by decide +kernel
  rcases h : groupOf "a.rs" "A" "struct A(i8); const B: A = A(-1); const C: A = B;" .snake with
    fault | group
  · rw [h] at hok
    cases hok
  · exact ⟨group, rfl, (consistent_of_groupOf h).2 (.ofName "enums") true⟩

end Generation

end EnumTables
