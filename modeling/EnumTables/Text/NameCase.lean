import EnumTables.Text.CaseMap
import EnumTables.Text.Words

/-!
# Conventions for names

The ways in which the identifier of a constant becomes the name it is listed under.

* `NameCase` — the conventions.
* `NameCase.apply` — the name of an identifier.
-/

namespace EnumTables.Text

/-- How names are written. -/
inductive NameCase where
  /-- The identifier as it is. -/
  | verbatim
  /-- `LIGHT_ON` becomes `LightOn`. -/
  | pascal
  /-- `LIGHT_ON` becomes `light_on`. -/
  | snake
  /-- `LIGHT_ON` becomes `light-on`. -/
  | kebab
  /-- `LightOn` becomes `lighton`. -/
  | lower
  /-- `LightOn` becomes `LIGHT_ON`. -/
  | upper
deriving DecidableEq, Repr

namespace NameCase

/-- The conventions, in the order in which they are offered. -/
def all : List NameCase := [.verbatim, .pascal, .snake, .kebab, .lower, .upper]

/-- What a convention is called. -/
def label : NameCase → String
  | verbatim => "verbatim"
  | pascal => "pascal"
  | snake => "snake"
  | kebab => "kebab"
  | lower => "lower"
  | upper => "upper"

/-- The convention of a label. -/
def ofLabel? (label : String) : Option NameCase :=
  all.find? (·.label == label)

theorem ofLabel?_label (convention : NameCase) : ofLabel? convention.label = some convention := by
  cases convention <;> rfl

/-! ## Words -/

/-- A word in small letters; a capital sigma which ends the word becomes the final one. -/
def lowerWord : List Char → List Char
  | [] => []
  | [c] => if c == 'Σ' then ['ς'] else lowerChar c
  | c :: rest => lowerChar c ++ lowerWord rest

/-- A word in capitals. -/
def upperWord (word : List Char) : List Char :=
  word.flatMap upperChar

/-- A word in small letters with a capital in front. -/
def capitalWord : List Char → List Char
  | [] => []
  | c :: rest => upperChar c ++ lowerWord rest

/-- The words of `identifier`, each through `form`, with `separator` between them. -/
def joinWords (form : List Char → List Char) (separator identifier : String) : String :=
  separator.intercalate ((words identifier).map fun word => String.ofList (form word))

/-! ## Names -/

/-- **The name of an identifier.**  `lower` is lower case of the whole text; the others but `verbatim`
go by words. -/
def apply (convention : NameCase) (identifier : String) : String :=
  match convention with
  | verbatim => identifier
  | pascal => joinWords capitalWord "" identifier
  | snake => joinWords lowerWord "_" identifier
  | kebab => joinWords lowerWord "-" identifier
  | lower => lowercase identifier
  | upper => joinWords upperWord "_" identifier

end NameCase

end EnumTables.Text
