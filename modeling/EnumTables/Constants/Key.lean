import EnumTables.Source.Basic

/-!
# How constants are referred to

* `Key` — a constant of a file, or of the type which groups them.
* `keyOf?` — the constant which a path refers to.
* `Candidates` — the constants which can be referred to.
-/

namespace EnumTables.Constants

open EnumTables.Number EnumTables.Source

/-! ## Keys -/

/-- A way in which a constant is referred to. -/
inductive Key where
  /-- A constant of the file, `NAME`. -/
  | free (name : String)
  /-- A constant in an `impl` block of the type, `Self::NAME` or `Type::NAME`. -/
  | associated (name : String)
deriving DecidableEq, Repr

namespace Key

/-- The identifier of the constant. -/
def name : Key → String
  | free name | associated name => name

/-- How a message refers to the constant. -/
def text : Key → String
  | free name => name
  | associated name => "Self::" ++ name

end Key

/-- The words for a place, which a path may begin with. -/
def placeWords : List String := ["self", "crate", "super"]

/-- **The constant which a path refers to**, with `type` as the name of the type.  Paths into modules
refer to none. -/
def keyOf? (type : String) (path : Path) : Option Key :=
  match path.names.dropWhile placeWords.contains with
  | [name] => some (.free name)
  | [owner, name] => if owner = "Self" ∨ owner = type then some (.associated name) else none
  | _ => none

/-! ## Candidates -/

/-- What kind of value a constant has. -/
inductive Kind where
  /-- A value of the type. -/
  | group
  /-- An integer. -/
  | scalar (type : Primitive)
deriving DecidableEq, Repr

/-- A constant which was not evaluated yet. -/
structure Candidate where
  kind : Kind
  value : Expr
deriving Repr

/-- The constants which can be referred to, the last declared first.  A key which was declared again
stands for its last declaration. -/
abbrev Candidates := List (Key × Candidate)

namespace Candidates

/-- The last declaration of a key. -/
def find? (candidates : Candidates) (key : Key) : Option Candidate :=
  candidates.lookup key

/-- The kind of constant which a key stands for. -/
def kind? (candidates : Candidates) (key : Key) : Option Kind :=
  (candidates.find? key).map (·.kind)

/-- Declares a constant. -/
def insert (candidates : Candidates) (key : Key) (candidate : Candidate) : Candidates :=
  (key, candidate) :: candidates

theorem find?_insert (candidates : Candidates) (key other : Key) (candidate : Candidate) :
    (candidates.insert key candidate).find? other =
      if other = key then some candidate else candidates.find? other := by
  by_cases h : other = key
  · simp [find?, insert, h]
  · have differ : (other == key) = false := by simpa using h
    rw [find?, insert, List.lookup_cons, differ, if_neg h, find?]

end Candidates

end EnumTables.Constants
