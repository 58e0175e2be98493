import EnumTables.Number.Primitive
import EnumTables.Text.Quoted

/-!
# What an enumeration pairs

The names and the indices of an enumeration are values of two types.  All that an enumeration needs to
know of such a type, besides equality, is written down in a `MemberType`.

* `MemberType` — a type of names or of indices.
* `MemberType.primitive`, `MemberType.text`, `MemberType.wrapped` — the ones at hand.
* `isOneOf` — whether a value is a target or one of its alternatives.
-/

namespace EnumTables.Enumeration

open EnumTables.Number EnumTables.Text

/-- A type of names or of indices: what it is called, how a message shows a value, and which value stands
for none. -/
structure MemberType (α : Type) where
  label : String
  shown : α → String
  undefined : α

namespace MemberType

/-- Integers of a primitive type. -/
def primitive (type : Primitive) : MemberType Int := ⟨type.label, toString, 0⟩

/-- Texts of a type which is called `label`. -/
def text (label : String) : MemberType String := ⟨label, quoted, ""⟩

/-- A type of its own around another one; messages show its name, and the value in parentheses. -/
def wrapped {α : Type} (name : String) (inner : MemberType α) : MemberType α where
  label := name
  shown value := name ++ "(" ++ inner.shown value ++ ")"
  undefined := inner.undefined

end MemberType

/-- Whether a value equals the target or one of the alternatives. -/
def isOneOf {α : Type} [BEq α] (value target : α) (alternatives : List α) : Bool :=
  value == target || alternatives.any (value == ·)

end EnumTables.Enumeration
