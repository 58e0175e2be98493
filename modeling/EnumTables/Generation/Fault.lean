import EnumTables.Constants.Fault
import EnumTables.Files.Trouble
import EnumTables.Source.Fault

/-!
# Why a companion cannot be generated

* `Fault` — the reasons; `Fault.message` words them, and `Fault.trouble?` is what a system said.
* `Fault.ofMisread`, `Fault.ofFailure` — faults of the source, with its path and the place in it.
-/

namespace EnumTables.Generation

open EnumTables.Constants EnumTables.Files EnumTables.Source EnumTables.Token

/-- Reasons why a companion cannot be generated. -/
inductive Fault where
  | read (path : String) (trouble : Trouble)
  | write (path : String) (trouble : Trouble)
  /-- The source is not what it should be.  The column counts from zero. -/
  | source (path : String) (position : Position) (text : String)
  | runtime (path : String)
  | format (path complaint : String)
deriving DecidableEq, Repr

namespace Fault

/-- The fault of a text which is no source file. -/
def ofMisread (path : String) (misread : Misread) : Fault :=
  .source path misread.span.start misread.message

/-- The fault of a source whose constants cannot be listed. -/
def ofFailure (path : String) (failure : Failure) : Fault :=
  .source path failure.span.start failure.message

/-- A position as messages give it, where columns count from one. -/
def shownPosition (position : Position) : Nat × Nat := (position.line, position.column + 1)

/-- The wording of a fault. -/
def message : Fault → String
  | read path _ => "failed to read " ++ path
  | write path _ => "failed to write " ++ path
  | source path position text =>
    let (line, column) := shownPosition position
    path ++ ":" ++ toString line ++ ":" ++ toString column ++ ": " ++ text
  | runtime path => "invalid runtime crate path `" ++ path ++ "`"
  | format path complaint => "rustfmt failed on " ++ path ++ ": " ++ complaint

/-- What the system said about a file. -/
def trouble? : Fault → Option Trouble
  | read _ trouble | write _ trouble => some trouble
  | source .. | runtime _ | format .. => none

end Fault

end EnumTables.Generation
