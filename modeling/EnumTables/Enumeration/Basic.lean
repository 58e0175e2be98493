import EnumTables.Enumeration.Member
import EnumTables.Enumeration.Rejection

/-!
# Enumerations

An enumeration pairs names with indices.  The two sides hold their values in the same order.

* `Side` — the names, or the indices, with what stands for a missing one.
* `Enumerator` — a list which values are checked against; each side is one.
* `Enumeration` — both.
* `Enumeration.members`, `Enumeration.tryIndexOf`, `Enumeration.tryDescribe` — pairs, and lookups in both
  directions.
-/

namespace EnumTables

namespace Enumeration

/-! ## Sides -/

/-- One side of an enumeration. -/
structure Side (α : Type) where
  id : String
  typeName : String
  undefined : α
  values : List α
deriving DecidableEq, Repr

namespace Side

variable {α : Type}

/-- A side with values of a type. -/
def ofValues (type : MemberType α) (id : String) (values : List α) : Side α :=
  ⟨id, type.label, type.undefined, values⟩

/-- A side which belongs to no enumeration. -/
def blank (type : MemberType α) : Side α := ⟨"", "", type.undefined, []⟩

variable [DecidableEq α]

def contains (side : Side α) (value : α) : Bool :=
  side.values.contains value

/-- Rejects a value which is not on this side. -/
def validate (side : Side α) (shown : α → String) (value : α) : Except Rejection Unit :=
  if side.contains value then .ok () else .error (.ofValue shown side.id side.values value)

end Side

/-- **A list of valid values** which others are checked against. -/
structure Enumerator (α : Type) where
  list : List α
  validate : α → Except Rejection Unit

/-- A side as such a list. -/
def Side.enumerator {α : Type} [DecidableEq α] (side : Side α) (shown : α → String) : Enumerator α :=
  ⟨side.values, side.validate shown⟩

end Enumeration

/-- **An enumeration**: names of type `S` and indices of type `N`, paired by their places. -/
structure Enumeration (S N : Type) where
  index : Enumeration.Side N
  description : Enumeration.Side S
deriving DecidableEq, Repr

namespace Enumeration

variable {S N : Type}

/-! ## Accessors -/

def id (enumeration : Enumeration S N) : String := enumeration.index.id

def size (enumeration : Enumeration S N) : Nat := enumeration.index.values.length

def isEmpty (enumeration : Enumeration S N) : Bool := enumeration.index.values.isEmpty

/-- The pairs, in the order of the definition. -/
def members (enumeration : Enumeration S N) : List (S × N) :=
  enumeration.description.values.zip enumeration.index.values

/-! ## Lookups -/

variable [DecidableEq S] [DecidableEq N]

/-- The index which is paired with a name. -/
def tryIndexOf (enumeration : Enumeration S N) (name : S) : Option N := do
  let place ← enumeration.description.values.findIdx? (· == name)
  enumeration.index.values[place]?

/-- The index which is paired with a name, or the undefined one. -/
def indexOf (enumeration : Enumeration S N) (name : S) : N :=
  (enumeration.tryIndexOf name).getD enumeration.index.undefined

/-- The name which is paired with an index. -/
def tryDescribe (enumeration : Enumeration S N) (index : N) : Option S := do
  let place ← enumeration.index.values.findIdx? (· == index)
  enumeration.description.values[place]?

/-- The name which is paired with an index, or the undefined one. -/
def describe (enumeration : Enumeration S N) (index : N) : S :=
  (enumeration.tryDescribe index).getD enumeration.description.undefined

/-- The same under another name. -/
def nameOf (enumeration : Enumeration S N) (index : N) : S :=
  enumeration.describe index

end Enumeration

end EnumTables
