import EnumTables.Constants.Fault
import EnumTables.Text.NameCase

/-!
# Groups of constants

* `Constant` and `Group` — the constants which are declared with a tuple struct as their type.
* `firsts` and `Group.unique` — the first constant of every value.
* `Group.named` and `clash?` — other names for the constants, and the first name which is given twice.
* `Group.renamed` and `Group.rename` — both, where the first also leaves names which cannot be used.
-/

namespace EnumTables

namespace Group

open EnumTables.Constants EnumTables.Number EnumTables.Source EnumTables.Text

/-! ## Groups -/

/-- A constant of a group, and the name under which it is listed. -/
structure Constant where
  ident : Identifier
  /-- Whether it is declared in an `impl` block of the type. -/
  associated : Bool
  value : Int
  name : String
deriving DecidableEq, Repr

end Group

/-- **A group of constants**: a tuple struct around an integer, and the constants of that type in the
order in which they are declared. -/
structure Group where
  visibility : Source.Visibility
  ident : Source.Identifier
  repr : Number.Primitive
  constants : List Group.Constant
deriving Repr

namespace Group

open EnumTables.Constants EnumTables.Number EnumTables.Source EnumTables.Text

/-! ## First constants -/

/-- The constants whose value is neither in `seen` nor that of an earlier one. -/
def firstsFrom (seen : List Int) : List Constant → List Constant
  | [] => []
  | constant :: rest =>
    if constant.value ∈ seen then firstsFrom seen rest
    else constant :: firstsFrom (constant.value :: seen) rest

/-- **The first constant of every value**, in order. -/
def firsts (constants : List Constant) : List Constant :=
  firstsFrom [] constants

def unique (group : Group) : List Constant :=
  firsts group.constants

/-! ## Names -/

/-- The group with the names which a convention makes of the identifiers. -/
def named (group : Group) (convention : NameCase) : Group :=
  { group with
    constants := group.constants.map fun constant =>
      { constant with name := convention.apply constant.ident.text } }

/-- The first constant whose name is that of an earlier one, and the last such earlier one.  `before`
holds the constants before these, the last one first. -/
def clashFrom? (before : List Constant) : List Constant → Option (Constant × Constant)
  | [] => none
  | constant :: rest =>
    match before.find? (·.name == constant.name) with
    | some previous => some (constant, previous)
    | none => clashFrom? (constant :: before) rest

/-- The first constant whose name is taken, and the one which took it. -/
def clash? (constants : List Constant) : Option (Constant × Constant) :=
  clashFrom? [] constants

/-- Why the names of a group cannot be used, if so. -/
def nameFailure? (group : Group) : Option Failure :=
  (clash? group.constants).map fun (constant, previous) =>
    ⟨.nameTaken constant.name previous.ident.text, constant.ident.span⟩

/-- What renaming leaves: the group, and why its names cannot be used, if so. -/
structure Renamed where
  group : Group
  failure? : Option Failure

/-- **Renames the constants of a group.**  They keep their new names also if two of these are the same. -/
def renamed (group : Group) (convention : NameCase) : Renamed :=
  let after := group.named convention
  ⟨after, after.nameFailure?⟩

/-- The group with its constants renamed; refuses names of which two are the same. -/
def rename (group : Group) (convention : NameCase) : Except Failure Group :=
  let after := group.renamed convention
  match after.failure? with
  | some failure => throw failure
  | none => return after.group

end Group

end EnumTables
