import EnumTables.Text.Quoted

/-!
# Why enumerations and values are rejected

* `Reason` — rules for definitions, in the order in which they are looked at.
* `Reason.message_inj` — each rule has its own wording.
* `Rejection` — a definition or a value which is rejected.
* `Rejection.message`, `Rejection.detail` — the two ways in which it is written.
-/

namespace EnumTables.Enumeration

open EnumTables.Text

/-- Why a definition is rejected. -/
inductive Reason where
  | noId
  | noMembers
  | sameIndexes
  | sameNames
deriving DecidableEq, Repr

/-- The wording of a reason. -/
def Reason.message : Reason → String
  | noId => "id is required!"
  | noMembers => "definition is required!"
  | sameIndexes => "indexes must be unique!"
  | sameNames => "names must be unique!"

/-- The wording of a reason tells which rule was broken. -/
theorem Reason.message_inj {reason other : Reason} : reason.message = other.message ↔ reason = other := by
  cases reason <;> cases other <;> decide

/-- What was rejected, with values as messages show them. -/
inductive Rejection where
  | definition (id reason : String)
  | value (id expected got : String)
deriving DecidableEq, Repr

namespace Rejection

/-- A value which is none of the expected ones. -/
def ofValue {α : Type} (shown : α → String) (id : String) (expected : List α) (got : α) : Rejection :=
  .value id (quotedList (expected.map shown)) (shown got)

/-- The wording. -/
def message : Rejection → String
  | definition id reason => "[Enum] failed to register " ++ quoted id ++ ": " ++ reason
  | value id expected got =>
    "[Enum] invalid enum value for " ++ id ++ ": must be one of " ++ expected ++ ", got " ++ got

/-- All that is known, with every text in quotes. -/
def detail : Rejection → String
  | definition id reason =>
    "FailedToRegister \x7b id: " ++ quoted id ++ ", reason: " ++ quoted reason ++ " \x7d"
  | value id expected got =>
    "InvalidValue \x7b id: " ++ quoted id ++ ", expected: " ++ quoted expected ++ ", got: " ++
      quoted got ++ " \x7d"

end Rejection

end EnumTables.Enumeration
