import EnumTables.Command.Run
import EnumTables.Text.Moment
import Std.Time.DateTime.Timestamp

/-!
The command line: files and variables of the system around `Command.run`, which decides everything.

No other program is started from here, so that files stay as they are written, and the log says so.
-/

namespace EnumTables.Command

open EnumTables.Files EnumTables.Generation EnumTables.Text

/-- What the system says about a file. -/
def troubleOf : IO.Error → Trouble
  | .noFileOrDirectory .. => .missing
  | .inappropriateType _ code _ => if code = 20 then .notDirectory else .isDirectory
  | failure => .other (toString failure)

/-- An action on a file, with what the system says if it fails. -/
def attempted {α : Type} (action : IO α) : IO (Except Trouble α) := do
  try
    return .ok (← action)
  catch failure =>
    return .error (troubleOf failure)

/-- The text of a file of the system. -/
def readText (path : String) : IO (Except Trouble String) := do
  let bytes ← attempted (IO.FS.readBinFile path)
  return bytes.bind fun bytes =>
    match String.fromUTF8? bytes with
    | some text => .ok text
    | none => .error .notText

/-- **The system as surroundings.** -/
def systemHost : Host IO where
  read := readText
  write path text := attempted (IO.FS.writeFile path text)
  format _ := return .notStarted Trouble.missing.message

/-- The variables of the system. -/
def systemEnvironment : IO Environment := do
  return ⟨← IO.getEnv sourceVariable, ← IO.getEnv ownFilterVariable, ← IO.getEnv commonFilterVariable⟩

/-- The time of the system. -/
def systemTime : IO String := do
  let now ← Std.Time.Timestamp.now
  return momentText now.toSecondsSinceUnixEpoch.val.toNat

/-- A run on the system, which gives its exit code. -/
def program (arguments : List String) : IO UInt32 := do
  let outcome ← run systemHost (← systemTime) (← systemEnvironment) arguments
  (← IO.getStdout).putStr outcome.output
  (← IO.getStderr).putStr outcome.messages
  return outcome.code.toUInt32

end EnumTables.Command

def main (arguments : List String) : IO UInt32 :=
  EnumTables.Command.program arguments
