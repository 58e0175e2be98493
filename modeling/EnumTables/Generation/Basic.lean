import EnumTables.Companion.Code
import EnumTables.Companion.File
import EnumTables.Files.FilePath
import EnumTables.Generation.Event
import EnumTables.Generation.Host
import EnumTables.Group.Collect
import EnumTables.Source.Read
import EnumTables.Text.Trim

/-!
# Generating companions

* `Settings` — what can be chosen.
* `Report` — what came of a request, and what happened on the way.
* `groupOf` and `ofText` — the group of a source text, and its companion.
* `generate` — the companion of a source file.
* `generateToFile` — the same, written to its file and formatted there.
-/

namespace EnumTables.Generation

open EnumTables.Files EnumTables.Text

/-! ## Requests and reports -/

/-- What can be chosen about a companion. -/
structure Settings where
  /-- Where it goes, if not beside the source. -/
  output : Option String := none
  convention : NameCase := .verbatim
  /-- The path under which its code finds the crate of enumerations. -/
  runtime : String := "::enums"
  registry : Bool := false
  timestamp : Bool := true
  formatted : Bool := true
deriving DecidableEq, Repr

/-- A companion as it will be written. -/
structure Output where
  path : String
  type : String
  code : String
deriving DecidableEq, Repr

/-- What came of a request, and what happened on the way. -/
structure Report (α : Type) where
  outcome : Except Fault α
  events : List Event

/-! ## Companions of texts -/

/-- The group of a type in a source text, listed under the names of a convention. -/
def groupOf (source type text : String) (convention : NameCase) : Except Fault Group := do
  let file ← (Source.fileOf text).mapError (.ofMisread source)
  let group ← (Group.ofFile file type).mapError (.ofFailure source)
  (group.rename convention).mapError (.ofFailure source)

/-- The path to which a companion goes. -/
def outputPath (source : String) (settings : Settings) : String :=
  settings.output.getD (defaultOutput source)

/-- The text of the companion of a group. -/
def codeOf (group : Group) (runtime : Source.Path) (time : String) (settings : Settings) : String :=
  Companion.fileText ((Companion.ofGroup group).code runtime settings.registry)
    (if settings.timestamp then some time else none)

/-- **The companion of a source text.** -/
def ofText (source type text time : String) (settings : Settings) : Report Output :=
  match groupOf source type text settings.convention with
  | .error fault => ⟨.error fault, []⟩
  | .ok group =>
    { outcome :=
        match Source.pathOf settings.runtime with
        | .error _ => .error (.runtime settings.runtime)
        | .ok runtime => .ok ⟨outputPath source settings, type, codeOf group runtime time settings⟩
      events := [.found group.constants.length type source] }

/-! ## Companions of files -/

section

variable {m : Type → Type} [Monad m]

/-- **The companion of a source file.**  Nothing is written. -/
def generate (host : Host m) (time source type : String) (settings : Settings) :
    m (Report Output) := do
  match ← host.read source with
  | .error trouble => return ⟨.error (.read source trouble), []⟩
  | .ok text => return ofText source type text time settings

/-- Writes a text to a file. -/
def writeFile (host : Host m) (path text : String) : m (Except Fault Unit) := do
  return (← host.write path text).mapError (.write path)

/-- What a formatter is told to do with a file. -/
def formatArguments (path : String) : List String := ["--edition", "2021", path]

/-- Formats a file where it stands.  No formatter can be told of a path with the character zero in it. -/
def formatFile (host : Host m) (path : String) : m (Except Fault Unit) := do
  if path.toList.contains '\x00' then
    return .error (.format path "nul byte found in provided data")
  match ← host.format (formatArguments path) with
  | .done => return .ok ()
  | .refused complaint => return .error (.format path (String.ofList (trimmed complaint.toList)))
  | .notStarted reason => return .error (.format path reason)

/-- Formats a file if that is wished for; a failure is only logged. -/
def formatAsWished (host : Host m) (path : String) (wished : Bool) : m (List Event) := do
  if wished then
    match ← formatFile host path with
    | .ok () => return []
    | .error fault => return [.unformatted fault]
  else return []

/-- **The companion of a source file, written to its path.**  Whatever fails before the file is written
leaves all files alone, and a failure to format it leaves it as it was written. -/
def generateToFile (host : Host m) (time source type : String) (settings : Settings) :
    m (Report String) := do
  let report ← generate host time source type settings
  match report.outcome with
  | .error fault => return ⟨.error fault, report.events⟩
  | .ok output =>
    match ← writeFile host output.path output.code with
    | .error fault => return ⟨.error fault, report.events⟩
    | .ok () =>
      let warnings ← formatAsWished host output.path settings.formatted
      return ⟨.ok output.path, report.events ++ warnings ++ [.generated output.path source output.type]⟩

end

end EnumTables.Generation
