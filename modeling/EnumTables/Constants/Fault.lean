import EnumTables.Constants.Key

/-!
# Why a group of constants cannot be listed

* `Fault` — the reasons; `Fault.message` words them.
* `Failure` — a reason and its place.
-/

namespace EnumTables.Constants

open EnumTables.Number EnumTables.Token

/-- Reasons why the constants of a type cannot be listed. -/
inductive Fault where
  | noType (name : String)
  | hasGenerics
  | noInteger
  | noConstants (type : String)
  | unknownConstant (key : Key)
  | cycle (key : Key)
  /-- An initializer is no value of the type. -/
  | noGroupValue (type : String)
  /-- A constant of the type stands where an integer should. -/
  | groupConstant (key : Key) (type : String)
  | divisionByZero
  | overflow
  | outOfRange (value : Int) (type : Primitive)
  /-- A literal has more than 127 bits. -/
  | literalTooLarge
  | unsupported
  /-- Two constants would be listed under one name. -/
  | nameTaken (name previous : String)
deriving DecidableEq, Repr

/-- The wording of a reason. -/
def Fault.message : Fault → String
  | noType name => "cannot find type `" ++ name ++ "`"
  | hasGenerics => "expected type without generics"
  | noInteger => "expected tuple struct with a single integer field"
  | noConstants type => "cannot find constants of type `" ++ type ++ "`"
  | unknownConstant key => "cannot find constant `" ++ key.text ++ "`"
  | cycle key => "cycle detected when evaluating `" ++ key.text ++ "`"
  | noGroupValue type =>
    "expected `" ++ type ++ "(..)`, `Self(..)` or another constant of type `" ++ type ++ "`"
  | groupConstant key type =>
    "expected an integer, found constant `" ++ key.text ++ "` of type `" ++ type ++ "`"
  | divisionByZero => "attempt to divide by zero"
  | overflow => "arithmetic overflow"
  | outOfRange value type =>
    "value " ++ toString value ++ " out of range for `" ++ type.label ++ "`"
  | literalTooLarge => "number too large to fit in target type"
  | unsupported => "unsupported constant expression"
  | nameTaken name previous => "name `" ++ name ++ "` is already used by `" ++ previous ++ "`"

/-- A reason and its place. -/
structure Failure where
  fault : Fault
  span : Span
deriving DecidableEq, Repr

def Failure.message (failure : Failure) : String := failure.fault.message

end EnumTables.Constants
