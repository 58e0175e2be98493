import EnumTables.Proofs.Forms
import EnumTables.Proofs.GuardReading
import EnumTables.Proofs.TextLiterals

/-!
# The code of a companion is read

Here the tables of a companion are taken from its code.  The reader knows how the code is laid out, and gives
what stands in each of the tables, so that it can be said what the code answers.

* `pathOf?`, `integerOf?`, `stringOf?`, `listOf?` — the parts of which tables are made.
* `Form.list`, `Form.names`, … — the texts of the items, with gaps where the tables stand.
* `Reading` — what stands in the tables of some code; `readCode` reads it.
* `scans_scanList`, `scans_scanNames`, … — each item is read as it is written.
* `readCode_code` — what is read are the tables of the companion of which the code was made.
-/

namespace EnumTables.Companion

open EnumTables.Group EnumTables.Number EnumTables.Source EnumTables.Token

/-! ## Parts -/

/-- Names with `::` between them. -/
def segmentsOf? : List Atom → Option (List PathSegment)
  | [.word name] => some [⟨name, .none⟩]
  | .word name :: .sign ':' true :: .sign ':' false :: rest => (⟨name, .none⟩ :: ·) <$> segmentsOf? rest
  | _ => none

def pathOf? (part : List Atom) : Option Path :=
  (fun segments => ⟨false, segments⟩) <$> segmentsOf? part

/-- The digits of a literal, of which the suffix is the type. -/
def magnitudeOf? (type : Primitive) (literal : String) : Option Nat :=
  match LiteralKind.ofText literal with
  | .integer number => if number.suffix = type.label then some number.magnitude else none
  | _ => none

def integerOf? (type : Primitive) : List Atom → Option Int
  | [.literal text] => (fun magnitude : Nat => (magnitude : Int)) <$> magnitudeOf? type text
  | [.sign '-' _, .literal text] => (fun magnitude : Nat => -(magnitude : Int)) <$> magnitudeOf? type text
  | _ => none

def stringOf? : List Atom → Option String
  | [.literal text] => textOf? text
  | _ => none

/-- Parts with a mark between them. -/
def listOf? {α : Type} (mark : Char) (decode : List Atom → Option α) (part : List Atom) :
    Option (List α) :=
  (pieces (.sign mark false) part).mapM decode

/-! ## The layout of the code -/

namespace Form

-- what follows the gaps is found by reading the tokens of each text

def documentation : Form where
  text := "# [doc = $]"
  first := .sign '#' false
  stops := [some (.closing .bracket)]
  follow := stopsOf_ofList (by decide +kernel)

def inline : Form where
  text := "# [inline (always)]"
  first := .sign '#' false
  stops := []
  follow := stopsOf_ofList (by decide +kernel)

def guard : Form where
  text := "const _ : () = \x7b $ \x7d ;"
  first := .word "const"
  stops := [some (.closing .brace)]
  follow := stopsOf_ofList (by decide +kernel)

def assertion : Form where
  text := ":: core :: assert ! ($ . 0 == $ , $) ;"
  first := .sign ':' true
  stops := [some (.sign '.' false), some (.sign ',' false), some (.closing .paren)]
  follow := stopsOf_ofList (by decide +kernel)

def list : Form where
  text := "const fn list () -> & 'static [Self] \x7b & [$] \x7d"
  first := .word "const"
  stops := [some (.closing .bracket)]
  follow := stopsOf_ofList (by decide +kernel)

def names : Form where
  text := "const fn list_names () -> & 'static [& 'static str] \x7b & [$] \x7d"
  first := .word "const"
  stops := [some (.closing .bracket)]
  follow := stopsOf_ofList (by decide +kernel)

def values : Form where
  text := "const fn list_values () -> & 'static [$] \x7b & [$] \x7d"
  first := .word "const"
  stops := [some (.closing .bracket), some (.closing .bracket)]
  follow := stopsOf_ofList (by decide +kernel)

def arm : Form where
  text := "$ => :: core :: option :: Option :: Some ($) ,"
  first := .sign '$' false
  stops := [some (.sign '=' true), some (.closing .paren)]
  follow := stopsOf_ofList (by decide +kernel)

-- the characters of a long text are a deep term
set_option maxRecDepth 2000

def fromName : Form where
  text := "fn from_name (name : & str) -> :: core :: option :: Option < Self > \x7b match name \x7b $ _ => :: core :: option :: Option :: None \x7d \x7d"
  first := .word "fn"
  stops := [some (.word "_")]
  follow := stopsOf_ofList (by decide +kernel)

def name : Form where
  text := "fn name (& self) -> :: core :: option :: Option < & 'static str > \x7b match self . 0 \x7b $ _ => :: core :: option :: Option :: None \x7d \x7d"
  first := .word "fn"
  stops := [some (.word "_")]
  follow := stopsOf_ofList (by decide +kernel)

def is : Form where
  text := "fn is (& self , target : & Self , or : & [Self]) -> bool \x7b self . 0 == target . 0 || or . iter () . any (| other | self . 0 == other . 0) \x7d"
  first := .word "fn"
  stops := []
  follow := stopsOf_ofList (by decide +kernel)

def validate : Form where
  text := "fn validate (& self) -> :: core :: result :: Result < () , $ :: Error > \x7b if self . is_valid () \x7b :: core :: result :: Result :: Ok (()) \x7d else \x7b :: core :: result :: Result :: Err ($ :: Error :: invalid_value ($ , & [$] , self . 0)) \x7d \x7d"
  first := .word "fn"
  stops := [some (.sign ':' true), some (.sign ':' true), some (.sign ',' false), some (.closing .bracket)]
  follow := stopsOf_ofList (by decide +kernel)

def isValid : Form where
  text := "const fn is_valid (& self) -> bool \x7b :: core :: matches ! (self . 0 , $) \x7d"
  first := .word "const"
  stops := [some (.closing .paren)]
  follow := stopsOf_ofList (by decide +kernel)

def member : Form where
  text := "($ , $)"
  first := .opening .paren
  stops := [some (.sign ',' false), some (.closing .paren)]
  follow := stopsOf_ofList (by decide +kernel)

def enumeration : Form where
  text := "fn enumeration () -> :: core :: result :: Result < & 'static $ :: Enum < & 'static str , $ > , $ :: Error > \x7b static REGISTRY : $ :: Registry < & 'static str , $ > = $ :: Registry :: new () ; REGISTRY . get_or_register ($ , [$] , []) \x7d"
  first := .word "fn"
  stops := [some (.sign ':' true), some (.sign '>' false), some (.sign ':' true), some (.sign ':' true),
    some (.sign '>' false), some (.sign ':' true), some (.sign ',' false), some (.closing .bracket)]
  follow := stopsOf_ofList (by decide +kernel)

def implementation : Form where
  text := "# [allow (dead_code)] impl $ \x7b $ \x7d"
  first := .sign '#' false
  stops := [some (.opening .brace), some (.closing .brace)]
  follow := stopsOf_ofList (by decide +kernel)

end Form

/-- The name of a type in its module: the path of the module, `::` and the type. -/
def qualified (type : String) : List Atom :=
  filled [[.word type]]
    (formOf ":: core :: concat ! (:: core :: module_path ! () , \"::\" , :: core :: stringify ! ($))")

/-! ## Reading -/

/-- **What stands in the code of a companion**, one field for each item. -/
structure Reading where
  guard : List Assertion
  list : List Path
  names : List String
  values : List Int
  /-- The arms of `from_name`. -/
  byName : List (String × Path)
  /-- The arms of `name`. -/
  byValue : List (Int × String)
  /-- The values which `validate` says it expects. -/
  expected : List Int
  /-- The values which `is_valid` matches. -/
  valid : List Int
  /-- What `enumeration` registers, if it is there. -/
  registered : Option (List (String × Int))

/-- The attribute which some items have. -/
def scanInline (inlined : Bool) : Scan (List (List Atom)) :=
  if inlined then Form.inline.scan [] else pure []

/-- An item behind its documentation, its attribute and its visibility. -/
def Form.scanItem (form : Form) (inlined : Bool) (gaps : List (Option (List Atom))) :
    Scan (List (List Atom)) := do
  let _ ← documentation.scan [none]
  let _ ← scanInline inlined
  let parts ← (takeForm (none :: gaps) (.sign '$' false :: formOf form.text) : Scan (List (List Atom)))
  return parts.tail

def scanAssertion (repr : Primitive) : Scan Assertion := do
  let [subject, value, message] ← Form.assertion.scan [none, none, none] | failure
  return ⟨← pathOf? subject, ← integerOf? repr value, ← stringOf? message⟩

def scanGuard (repr : Primitive) : Scan (List Assertion) := do
  let [part] ← Form.guard.scan [none] | failure
  (scanAssertion repr).each part

def scanList : Scan (List Path) := do
  let [part] ← Form.list.scanItem true [none] | failure
  listOf? ',' pathOf? part

def scanNames : Scan (List String) := do
  let [part] ← Form.names.scanItem true [none] | failure
  listOf? ',' stringOf? part

def scanValues (repr : Primitive) : Scan (List Int) := do
  let [part] ← Form.values.scanItem true [some [.word repr.label], none] | failure
  listOf? ',' (integerOf? repr) part

/-- An arm of a table. -/
def scanArm {α β : Type} (key : List Atom → Option α) (value : List Atom → Option β) : Scan (α × β) := do
  let [pattern, result] ← Form.arm.scan [none, none] | failure
  return (← key pattern, ← value result)

def scanFromName : Scan (List (String × Path)) := do
  let [arms] ← Form.fromName.scanItem false [none] | failure
  (scanArm stringOf? pathOf?).each arms

def scanName (repr : Primitive) : Scan (List (Int × String)) := do
  let [arms] ← Form.name.scanItem false [none] | failure
  (scanArm (integerOf? repr) stringOf?).each arms

def scanIs : Scan Unit := do
  let _ ← Form.is.scanItem false []

/-- The error names the type by its qualified name, and the value which was checked. -/
def scanValidate (runtime : List Atom) (type : String) (repr : Primitive) : Scan (List Int) := do
  let [part] ←
    Form.validate.scanItem false [some runtime, some runtime, some (qualified type), none] | failure
  listOf? ',' (integerOf? repr) part

def scanIsValid (repr : Primitive) : Scan (List Int) := do
  let [part] ← Form.isValid.scanItem true [none] | failure
  listOf? '|' (integerOf? repr) part

/-- A member of an enumeration. -/
def scanMember (repr : Primitive) : Scan (String × Int) := do
  let [name, value] ← Form.member.scan [none, none] | failure
  return (← stringOf? name, ← integerOf? repr value)

/-- What is registered has the qualified name of the type, and comes without settings. -/
def scanEnumeration (runtime : List Atom) (type : String) (repr : Primitive) :
    Scan (List (String × Int)) := do
  let [part] ← Form.enumeration.scanItem false
    [some runtime, some [.word repr.label], some runtime, some runtime, some [.word repr.label], some runtime,
      some (qualified type), none] | failure
  listOf? ',' (scanMember repr).whole part

/-- The accessor of the enumeration, or the end. -/
def scanEnumeration? (runtime : List Atom) (type : String) (repr : Primitive) :
    Scan (Option (List (String × Int))) := do
  if (← get).isEmpty then return none else return some (← scanEnumeration runtime type repr)

/-- All items of a type. -/
def scanItems (runtime : List Atom) (type : String) (repr : Primitive) (guard : List Assertion) :
    Scan Reading := do
  let list ← scanList
  let names ← scanNames
  let values ← scanValues repr
  let byName ← scanFromName
  let byValue ← scanName repr
  scanIs
  let expected ← scanValidate runtime type repr
  let valid ← scanIsValid repr
  let registered ← scanEnumeration? runtime type repr
  return { guard, list, names, values, byName, byValue, expected, valid, registered }

def scanCode (runtime : List Atom) (type : String) (repr : Primitive) : Scan Reading := do
  let guard ← scanGuard repr
  let [items] ← Form.implementation.scan [some [.word type], none] | failure
  (scanItems runtime type repr guard).whole items

/-- **The tables in the code of a companion**, which belong to a type around an integer. -/
def readCode (runtime : List Token) (type : String) (repr : Primitive) (code : List Token) : Option Reading :=
  (scanCode (atoms runtime) type repr).whole (atoms code)

/-! ## Parts are read as they are written -/

section

variable {stop : Atom} {c : Char} {joined : Bool} {type : Primitive} {rest : List Atom}

/-- A path of names alone. -/
def Simple (path : Path) : Prop :=
  ∃ name more, path = ⟨false, (name :: more).map fun name => ⟨name, .none⟩⟩

lemma simple_reference (type : String) (constant : Constant) : Simple (reference type constant) := by
  unfold reference
  split_ifs
  · exact ⟨type, [constant.ident.text], rfl⟩
  · exact ⟨constant.ident.text, [], rfl⟩

lemma pathTokens_names (names : List String) :
    pathTokens ⟨false, names.map fun name => ⟨name, .none⟩⟩ =
      colons.intercalate (names.map fun name => [identToken name]) := by
  simp only [pathTokens, List.map_map, Function.comp_def, argumentTokens, Bool.false_eq_true, if_false,
    List.nil_append]

lemma intercalate_names (name second : String) (more : List String) :
    colons.intercalate ((name :: second :: more).map fun name => [identToken name]) =
      identToken name :: (colons ++ colons.intercalate ((second :: more).map fun name => [identToken name])) :=
  rfl

lemma segmentsOf?_names (name : String) (more : List String) :
    segmentsOf? (atoms (colons.intercalate ((name :: more).map fun name => [identToken name]))) =
      some ((name :: more).map fun name => ⟨name, .none⟩) := by
  induction more generalizing name with
  | nil => rfl
  | cons second more ih =>
      exact congrArg (fun found => (⟨name, .none⟩ :: ·) <$> found) (ih second)

lemma pathOf?_pathTokens {path : Path} (h : Simple path) : pathOf? (atoms (pathTokens path)) = some path := by
  obtain ⟨name, more, rfl⟩ := h
  rw [pathTokens_names, pathOf?, segmentsOf?_names]
  rfl

lemma apart_pathTokens {path : Path} (h : Simple path) (hc : c ≠ ':') :
    Apart (.sign c joined) (pathTokens path) := by
  obtain ⟨name, more, rfl⟩ := h
  rw [pathTokens_names]
  induction more generalizing name with
  | nil => exact List.forall_mem_singleton.mpr nofun
  | cons second more ih =>
      have hcolons : Apart (.sign c joined) colons := by
        simp [Apart, colons, atomsOne, hc.symm]
      rw [intercalate_names]
      exact List.forall_mem_cons.mpr ⟨nofun, List.forall_mem_append.mpr ⟨hcolons, ih second⟩⟩

lemma magnitudeOf?_literal (type : Primitive) (magnitude : Nat) :
    magnitudeOf? type (toString magnitude ++ type.label) = some magnitude := by
  rw [magnitudeOf?, ofText_literal]
  exact if_pos rfl

lemma integerOf?_literalTokens (type : Primitive) (value : Int) :
    integerOf? type (atoms (literalTokens type value)) = some value := by
  by_cases hneg : value < 0
  · have hvalue : -(value.natAbs : Int) = value := by omega
    simp only [literalTokens, hneg, if_true, atoms, atomsOne, List.cons_append, List.nil_append, integerOf?,
      magnitudeOf?_literal, Option.map_eq_map, Option.map_some, hvalue]
  · have hvalue : (value.natAbs : Int) = value := by omega
    simp only [literalTokens, hneg, if_false, atoms, atomsOne, List.cons_append, List.nil_append, integerOf?,
      magnitudeOf?_literal, Option.map_eq_map, Option.map_some, hvalue]

lemma apart_literalTokens {value : Int} (h : stop ≠ .sign '-' false)
    (hliteral : ∀ text, stop ≠ .literal text) : Apart stop (literalTokens type value) := by
  unfold literalTokens
  split_ifs <;> simp [Apart, atomsOne, h.symm, (hliteral _).symm]

lemma stringOf?_stringToken (text : String) : stringOf? (atoms [stringToken text]) = some text :=
  textOf?_textLiteral text

lemma apart_stringToken {text : String} (h : ∀ text, stop ≠ .literal text) :
    Apart stop [stringToken text] := by
  simp [Apart, atomsOne, stringToken, (h _).symm]

/-- What is written one by one is read one by one. -/
lemma mapM_map_eq_some {α β : Type} {decode : β → Option α} {encode : α → β} {items : List α}
    (h : ∀ item ∈ items, decode (encode item) = some item) : (items.map encode).mapM decode = some items := by
  induction items with
  | nil => rfl
  | cons item more ih =>
      obtain ⟨hitem, hmore⟩ := List.forall_mem_cons.mp h
      rw [List.map_cons, List.mapM_cons, hitem, ih hmore]
      rfl

/-- **Parts are read one by one** if each of them is read, and holds no mark outside of brackets. -/
lemma listOf?_intercalate {α : Type} {decode : List Atom → Option α} (hnone : decode [] = none)
    {items : List α} {part : α → List Token}
    (hapart : ∀ item ∈ items, Apart (.sign c false) (part item))
    (hdecode : ∀ item ∈ items, decode (atoms (part item)) = some item) :
    listOf? c decode (atoms ([Token.mark c false .nowhere].intercalate (items.map part))) = some items := by
  have hne : ∀ item ∈ items, part item ≠ [] := by
    intro item hitem hnil
    have hsome := hdecode item hitem
    rw [hnil, atoms, hnone] at hsome
    cases hsome
  rw [listOf?, pieces_intercalate (List.forall_mem_map.mpr hapart) (List.forall_mem_map.mpr hne),
    List.map_map]
  exact mapM_map_eq_some hdecode

end

/-! ## Items are read as they are written -/

section

variable {companion : Companion} {rest : List Atom}

lemma apart_visibilityTokens {name : String} (h : name ∉ ["pub", "crate"]) (visibility : Visibility) :
    Apart (.word name) (visibilityTokens visibility) := by
  have hpub : "pub" ≠ name := fun heq => h (heq ▸ by decide)
  have hcrate : "crate" ≠ name := fun heq => h (heq ▸ by decide)
  cases visibility <;> simp [Apart, visibilityTokens, identToken, atomsOne, hpub, hcrate]

/-- **An item is read** behind its documentation, its attribute and its visibility. -/
lemma Form.scans_scanItem (form : Form) (word : String) (hword : word ∉ ["pub", "crate"])
    (hfirst : form.first = .word word) {inlined : Bool} {documentation : String} (fillings : List Filling)
    (h : List.Forall₂ Suits form.stops fillings) :
    Scans (form.scanItem inlined (fillings.map Filling.gap))
      (companion.header documentation inlined ++ template form.text (fillings.map Filling.tokens)) rest
      (found fillings) := by
  have hdocumentation : ∀ more, Scans (Form.documentation.scan [none])
      (template "# [doc = $]" [[.literal ("r\" " ++ documentation ++ "\"") .nowhere]]) more _ := fun _ =>
    Form.documentation.scans [⟨false, _⟩] (.cons (suits_closing .bracket _) .nil)
  have hinline : ∀ more, Scans (scanInline inlined)
      (if inlined then template "# [inline (always)]" [] else []) more [] := by
    intro more
    cases inlined with
    | false => exact .pure []
    | true => exact Form.inline.scans [] .nil
  have hvisible : Suits (some form.first) ⟨false, visibilityTokens companion.visibility⟩ := by
    rw [hfirst]
    exact suits_word word (apart_visibilityTokens hword _)
  have hitem : Scans (takeForm (none :: fillings.map Filling.gap) (.sign '$' false :: formOf form.text))
      (visibilityTokens companion.visibility ++ template form.text (fillings.map Filling.tokens)) rest
      (found (⟨false, visibilityTokens companion.visibility⟩ :: fillings)) := by
    have hfilled := takeForm_filled ([.sign '$' false] ++ formOf form.text)
      (⟨false, visibilityTokens companion.visibility⟩ :: fillings) (form.follow ▸ .cons hvisible h) rest
    rw [Scans, atoms_append, atoms_template, List.map_map]
    exact hfilled
  rw [header, List.append_assoc, List.append_assoc]
  exact (hdocumentation _).bind ((hinline _).bind (hitem.last rfl))

/-! ## Tables are read as they are written -/

lemma apart_valueTokens {value : Int} {c : Char} {joined : Bool} (hc : c ≠ '-') :
    Apart (.sign c joined) (companion.valueTokens value) :=
  apart_literalTokens (by simp [hc]) nofun

lemma integerOf?_valueTokens (value : Int) :
    integerOf? companion.repr (atoms (companion.valueTokens value)) = some value :=
  integerOf?_literalTokens companion.repr value

lemma scans_scanAssertion {assertion : Assertion} (h : Simple assertion.subject) :
    Scans (scanAssertion companion.repr)
      (template Form.assertion.text [pathTokens assertion.subject, companion.valueTokens assertion.value,
        [stringToken assertion.message]])
      rest assertion := by
  refine Scans.last (Form.assertion.scans
    [⟨false, pathTokens assertion.subject⟩, ⟨false, companion.valueTokens assertion.value⟩,
      ⟨false, [stringToken assertion.message]⟩]
    (.cons (suits_sign '.' false (by decide) (apart_pathTokens h (by decide)))
      (.cons (suits_sign ',' false (by decide) (apart_valueTokens (by decide)))
        (.cons (suits_closing .paren _) .nil)))) ?_
  simp only [found, List.filterMap_cons, List.filterMap_nil, Bool.false_eq_true, if_false,
    pathOf?_pathTokens h, integerOf?_valueTokens, stringOf?_stringToken]
  rfl

lemma scans_scanGuard (h : ∀ assertion ∈ companion.guard, Simple assertion.subject) :
    Scans (scanGuard companion.repr) companion.guardCode rest companion.guard := by
  refine Scans.last (Form.guard.scans [⟨false, _⟩] (.cons (suits_closing .brace _) .nil)) (lifted ?_)
  have hne : ∀ assertion : Assertion, template Form.assertion.text
      [pathTokens assertion.subject, companion.valueTokens assertion.value,
        [stringToken assertion.message]] ≠ [] :=
    fun _ => Form.assertion.template_ne_nil (.closing .paren) rfl (by decide)
  exact each_flatMap hne fun assertion hmem rest => scans_scanAssertion (h assertion hmem)

lemma scans_scanList (h : ∀ path ∈ companion.list, Simple path) :
    Scans scanList companion.listCode rest companion.list := by
  refine Scans.last (Form.list.scans_scanItem "const" (by decide) rfl [⟨false, _⟩]
    (.cons (suits_closing .bracket _) .nil)) (lifted ?_)
  exact listOf?_intercalate rfl (fun path hmem => apart_pathTokens (h path hmem) (by decide))
    fun path hmem => pathOf?_pathTokens (h path hmem)

lemma scans_scanNames : Scans scanNames companion.namesCode rest companion.names := by
  refine Scans.last (Form.names.scans_scanItem "const" (by decide) rfl [⟨false, _⟩]
    (.cons (suits_closing .bracket _) .nil)) (lifted ?_)
  exact listOf?_intercalate rfl (fun _ _ => apart_stringToken nofun) fun name _ => stringOf?_stringToken name

/-- Values which are parted by a mark are read. -/
lemma listOf?_values {c : Char} (hc : c ≠ '-') (values : List Int) :
    listOf? c (integerOf? companion.repr)
      (atoms ([Token.mark c false .nowhere].intercalate (values.map companion.valueTokens))) = some values :=
  listOf?_intercalate rfl (fun _ _ => apart_valueTokens hc) fun value _ => integerOf?_valueTokens value

lemma scans_scanValues : Scans (scanValues companion.repr) companion.valuesCode rest companion.values :=
  Scans.last (Form.values.scans_scanItem "const" (by decide) rfl [⟨true, companion.reprTokens⟩, ⟨false, _⟩]
    (.cons (suits_known _ _) (.cons (suits_closing .bracket _) .nil))) (lifted (listOf?_values (by decide) _))

section

variable {α β : Type} {key : List Atom → Option α} {value : List Atom → Option β}
variable (pattern : α → List Token) (result : β → List Token)

/-- **Arms are read one by one.** -/
lemma each_scanArm {arms : List (α × β)}
    (hapart : ∀ arm ∈ arms, Apart (.sign '=' true) (pattern arm.1))
    (hkey : ∀ arm ∈ arms, key (atoms (pattern arm.1)) = some arm.1)
    (hvalue : ∀ arm ∈ arms, value (atoms (result arm.2)) = some arm.2) :
    (scanArm key value).each (atoms (arms.flatMap fun arm => armCode (pattern arm.1) (result arm.2))) =
      some arms := by
  have hne : ∀ arm : α × β, armCode (pattern arm.1) (result arm.2) ≠ [] :=
    fun _ => Form.arm.template_ne_nil (.closing .paren) rfl (by decide)
  refine each_flatMap hne fun arm hmem rest => ?_
  refine Scans.last (Form.arm.scans [⟨false, _⟩, ⟨false, _⟩]
    (.cons (suits_sign '=' true (by decide) (hapart arm hmem)) (.cons (suits_closing .paren _) .nil))) ?_
  simp only [found, List.filterMap_cons, List.filterMap_nil, Bool.false_eq_true, if_false, hkey arm hmem,
    hvalue arm hmem]
  rfl

lemma lex_arm :
    lex "$ => :: core :: option :: Option :: Some ($) ,".toList = .ok
      [.mark '$' false (on 0 1), .mark '=' true (on 2 3), .mark '>' false (on 3 4),
        .mark ':' true (on 5 6), .mark ':' false (on 6 7), .ident "core" (on 8 12),
        .mark ':' true (on 13 14), .mark ':' false (on 14 15), .ident "option" (on 16 22),
        .mark ':' true (on 23 24), .mark ':' false (on 24 25), .ident "Option" (on 26 32),
        .mark ':' true (on 33 34), .mark ':' false (on 34 35), .ident "Some" (on 36 40),
        .group .paren [.mark '$' false (on 42 43)] (on 41 44), .mark ',' false (on 45 46)] := by
  with_unfolding_all rfl

/-- The arms end where the last one of the table begins.  The names in their results stand in brackets. -/
lemma apart_arms {arms : List (α × β)} (hpattern : ∀ arm ∈ arms, Apart (.word "_") (pattern arm.1)) :
    Apart (.word "_") (arms.flatMap fun arm => armCode (pattern arm.1) (result arm.2)) := by
  refine apart_flatMap fun arm hmem => ?_
  rw [armCode, template, lex_arm]
  simp only [fill, fillOne, List.append_nil, List.cons_append, List.nil_append]
  refine List.forall_mem_append.mpr ⟨hpattern arm hmem, ?_⟩
  simp [atomsOne]

end

lemma scans_scanFromName (h : ∀ entry ∈ companion.byName, Simple entry.2) :
    Scans scanFromName companion.fromNameCode rest companion.byName := by
  have hends : Apart (.word "_") (companion.byName.flatMap fun entry =>
      armCode [stringToken entry.1] (pathTokens entry.2)) :=
    apart_arms (fun name => [stringToken name]) pathTokens fun _ _ => apart_stringToken (by simp)
  refine Scans.last (Form.fromName.scans_scanItem "fn" (by decide) rfl [⟨false, _⟩]
    (.cons (suits_word "_" hends) .nil)) (lifted ?_)
  exact each_scanArm (fun name => [stringToken name]) pathTokens (fun _ _ => apart_stringToken (by simp))
    (fun entry _ => stringOf?_stringToken entry.1) fun entry hmem => pathOf?_pathTokens (h entry hmem)

lemma scans_scanName : Scans (scanName companion.repr) companion.nameCode rest companion.byValue := by
  have hends : Apart (.word "_") (companion.byValue.flatMap fun entry =>
      armCode (companion.valueTokens entry.1) [stringToken entry.2]) :=
    apart_arms companion.valueTokens (fun name => [stringToken name]) fun _ _ =>
      apart_literalTokens (by simp) (by simp)
  refine Scans.last (Form.name.scans_scanItem "fn" (by decide) rfl [⟨false, _⟩]
    (.cons (suits_word "_" hends) .nil)) (lifted ?_)
  exact each_scanArm companion.valueTokens (fun name => [stringToken name])
    (fun _ _ => apart_valueTokens (by decide)) (fun entry _ => integerOf?_valueTokens entry.1)
    fun entry _ => stringOf?_stringToken entry.2

lemma scans_scanIs : Scans scanIs companion.isCode rest () :=
  Scans.last (Form.is.scans_scanItem "fn" (by decide) rfl [] .nil) rfl

lemma atoms_qualifiedName : atoms companion.qualifiedName = qualified companion.type := by
  rw [qualifiedName, atoms_template]
  rfl

lemma scans_scanValidate (runtime : List Token) :
    Scans (scanValidate (atoms runtime) companion.type companion.repr) (companion.validateCode runtime) rest
      companion.known := by
  rw [scanValidate, ← atoms_qualifiedName]
  exact Scans.last (Form.validate.scans_scanItem "fn" (by decide) rfl
    [⟨true, runtime⟩, ⟨true, runtime⟩, ⟨true, companion.qualifiedName⟩, ⟨false, _⟩]
    (.cons (suits_known _ _) (.cons (suits_known _ _) (.cons (suits_known _ _)
      (.cons (suits_closing .bracket _) .nil))))) (lifted (listOf?_values (by decide) _))

lemma scans_scanIsValid : Scans (scanIsValid companion.repr) companion.isValidCode rest companion.known :=
  Scans.last (Form.isValid.scans_scanItem "const" (by decide) rfl [⟨false, _⟩]
    (.cons (suits_closing .paren _) .nil)) (lifted (listOf?_values (by decide) _))

/-- The tokens of a member. -/
def memberTokens (companion : Companion) (member : String × Int) : List Token :=
  [.group .paren (commas [[stringToken member.1], companion.valueTokens member.2]) .nowhere]

lemma formOf_member :
    formOf Form.member.text =
      [.opening .paren, .sign '$' false, .sign ',' false, .sign '$' false, .closing .paren] := by
  decide +kernel

lemma whole_scanMember_nil : (scanMember companion.repr).whole [] = none := by
  unfold Scan.whole scanMember Form.scan
  rw [formOf_member]
  rfl

lemma whole_scanMember (member : String × Int) :
    (scanMember companion.repr).whole (atoms (companion.memberTokens member)) = some member := by
  have hscans : Scans (scanMember companion.repr)
      (template Form.member.text [[stringToken member.1], companion.valueTokens member.2]) [] member := by
    refine Scans.last (Form.member.scans
      [⟨false, [stringToken member.1]⟩, ⟨false, companion.valueTokens member.2⟩]
      (.cons (suits_sign ',' false (by decide) (apart_stringToken nofun))
        (.cons (suits_closing .paren _) .nil))) ?_
    simp only [found, List.filterMap_cons, List.filterMap_nil, Bool.false_eq_true, if_false,
      integerOf?_valueTokens, stringOf?_stringToken]
    rfl
  have hatoms : atoms (companion.memberTokens member) =
      atoms (template Form.member.text [[stringToken member.1], companion.valueTokens member.2]) := by
    rw [atoms_template, formOf_member]
    simp [memberTokens, commas, filled, Atom.isGap, atoms, atomsOne]
  rw [hatoms]
  exact hscans.whole

lemma scans_scanEnumeration (runtime : List Token) :
    Scans (scanEnumeration (atoms runtime) companion.type companion.repr)
      (companion.enumerationCode runtime) rest companion.entries := by
  rw [scanEnumeration, ← atoms_qualifiedName]
  refine Scans.last (Form.enumeration.scans_scanItem "fn" (by decide) rfl
    [⟨true, runtime⟩, ⟨true, companion.reprTokens⟩, ⟨true, runtime⟩, ⟨true, runtime⟩,
      ⟨true, companion.reprTokens⟩, ⟨true, runtime⟩, ⟨true, companion.qualifiedName⟩, ⟨false, _⟩]
    (.cons (suits_known _ _) (.cons (suits_known _ _) (.cons (suits_known _ _) (.cons (suits_known _ _)
      (.cons (suits_known _ _) (.cons (suits_known _ _) (.cons (suits_known _ _)
        (.cons (suits_closing .bracket _) .nil))))))))) (lifted ?_)
  exact listOf?_intercalate whole_scanMember_nil (fun _ _ => List.forall_mem_singleton.mpr nofun)
    fun member _ => whole_scanMember member

/-! ## All of it -/

/-- What stands in the code of a companion. -/
def reading (companion : Companion) (registry : Bool) : Reading where
  guard := companion.guard
  list := companion.list
  names := companion.names
  values := companion.values
  byName := companion.byName
  byValue := companion.byValue
  expected := companion.known
  valid := companion.known
  registered := if registry then some companion.entries else none

/-- The paths of a companion are paths of names alone. -/
structure Readable (companion : Companion) : Prop where
  guard : ∀ assertion ∈ companion.guard, Simple assertion.subject
  list : ∀ path ∈ companion.list, Simple path
  byName : ∀ entry ∈ companion.byName, Simple entry.2

lemma readable_ofGroup (group : Group) : (ofGroup group).Readable where
  guard := List.forall_mem_map.mpr fun _ _ => simple_reference _ _
  list := List.forall_mem_map.mpr fun _ _ => simple_reference _ _
  byName := List.forall_mem_map.mpr fun _ _ => simple_reference _ _

lemma scans_scanEnumeration? (runtime : List Token) (registry : Bool) :
    Scans (scanEnumeration? (atoms runtime) companion.type companion.repr)
      (if registry then companion.enumerationCode runtime else []) []
      (if registry then some companion.entries else none) := by
  cases registry with
  | false => rfl
  | true =>
      have hcode : companion.enumerationCode runtime ≠ [] :=
        List.append_ne_nil_of_right_ne_nil _
          (Form.enumeration.template_ne_nil (.closing .bracket) rfl (by decide))
      obtain ⟨atom, more, hrow⟩ := List.exists_cons_of_ne_nil (atoms_ne_nil hcode)
      have hscans : Scans (scanEnumeration (atoms runtime) companion.type companion.repr)
          (companion.enumerationCode runtime) [] companion.entries := scans_scanEnumeration runtime
      rw [Scans, List.append_nil, hrow] at hscans
      rw [if_pos rfl, if_pos rfl, Scans, List.append_nil, hrow]
      exact congrArg (fun found => found.bind fun scanned => some (some scanned.1, scanned.2)) hscans

lemma scans_scanItems (h : companion.Readable) (runtime : List Token) (registry : Bool) :
    Scans (scanItems (atoms runtime) companion.type companion.repr companion.guard)
      (companion.listCode ++ companion.namesCode ++ companion.valuesCode ++ companion.fromNameCode ++
        companion.nameCode ++ companion.isCode ++ companion.validateCode runtime ++ companion.isValidCode ++
        if registry then companion.enumerationCode runtime else []) [] (companion.reading registry) := by
  simp only [List.append_assoc]
  refine (scans_scanList h.list).bind (scans_scanNames.bind (scans_scanValues.bind ?_))
  refine (scans_scanFromName h.byName).bind (scans_scanName.bind (scans_scanIs.bind ?_))
  refine (scans_scanValidate runtime).bind (scans_scanIsValid.bind ?_)
  exact (scans_scanEnumeration? runtime registry).last rfl

/-- **The tables of a companion are read from its code.** -/
theorem readCode_code (h : companion.Readable) (runtime : Path) (registry : Bool) :
    readCode (pathTokens runtime) companion.type companion.repr (companion.code runtime registry) =
      some (companion.reading registry) := by
  refine Scans.whole ((scans_scanGuard h.guard).bind (Scans.last (Form.implementation.scans
    [⟨true, companion.typeTokens⟩, ⟨false, _⟩]
    (.cons (suits_known _ _) (.cons (suits_closing .brace _) .nil))) (lifted ?_)))
  exact (scans_scanItems h (pathTokens runtime) registry).whole

end

end EnumTables.Companion
