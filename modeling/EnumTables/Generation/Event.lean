import EnumTables.Generation.Fault

/-!
# What is logged

* `Level` — how much an event matters.
* `Event` — what happens while a companion is generated; `Event.level` and `Event.message`.
-/

namespace EnumTables.Generation

/-- How much an event matters, beginning with what matters most. -/
inductive Level where
  | error
  | warn
  | info
  | debug
  | trace
deriving DecidableEq, Repr

namespace Level

/-- What stands before an event of a level. -/
def label : Level → String
  | error => "ERROR"
  | warn => "WARN"
  | info => "INFO"
  | debug => "DEBUG"
  | trace => "TRACE"

/-- How far down a level is. -/
def rank : Level → Nat
  | error => 1
  | warn => 2
  | info => 3
  | debug => 4
  | trace => 5

end Level

/-- What happens while a companion is generated. -/
inductive Event where
  | found (count : Nat) (type source : String)
  /-- The file stays as it was written. -/
  | unformatted (fault : Fault)
  | generated (path source type : String)
deriving DecidableEq, Repr

namespace Event

def level : Event → Level
  | found .. => .debug
  | unformatted _ => .warn
  | generated .. => .info

/-- The wording of an event. -/
def message : Event → String
  | found count type source =>
    "found " ++ toString count ++ " constants of type " ++ type ++ " in " ++ source
  | unformatted fault => fault.message
  | generated path source type =>
    "Successfully generated " ++ path ++ " for " ++ source ++ "::" ++ type

end Event

end EnumTables.Generation
