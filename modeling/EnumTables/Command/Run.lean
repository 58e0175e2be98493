import EnumTables.Command.Arguments
import EnumTables.Command.Help
import EnumTables.Command.LogFilter

/-!
# Running the command

* `Environment` — the variables which the command looks at.
* `Outcome` — its exit code, and what it writes.
* `failureText` — how a failure is reported.
* `run` — the command.
-/

namespace EnumTables.Command

open EnumTables.Files EnumTables.Generation

/-! ## Surroundings and outcome -/

/-- The variables which the command looks at. -/
structure Environment where
  /-- The source, if the command line does not name it. -/
  source : Option String
  /-- The filter of the command, and the one of all programs. -/
  ownFilter : Option String
  commonFilter : Option String
deriving DecidableEq, Repr

/-- The variable with the filter of the command. -/
def ownFilterVariable : String := "ENUMGEN_LOG"

/-- The variable with the filter of all programs. -/
def commonFilterVariable : String := "RUST_LOG"

/-- What a run comes to. -/
structure Outcome where
  code : Nat
  output : String
  messages : String
deriving DecidableEq, Repr

/-! ## Messages -/

/-- A text with a line end behind it. -/
def line (text : String) : String := text ++ "\n"

/-- The events which a filter admits, a line each. -/
def logText (filter : Filter) (events : List Event) : String :=
  String.join ((events.filter fun event => filter.admits event.level).map fun event =>
    line (event.level.label ++ " " ++ event.message))

/-- A cause behind a label; its further lines are indented as far as `indent`. -/
def causeText (label indent : String) (text : String) : String :=
  label ++ ("\n" ++ indent).intercalate ((text.toList.splitOn '\n').map String.ofList)

/-- The causes of a failure.  Several are numbered. -/
def causesText : List String → String
  | [only] => line (causeText "    " "    " only)
  | causes =>
    String.join (causes.mapIdx fun place cause =>
      line (causeText ("    " ++ toString place ++ ": ") "       " cause))

/-- **How a failure is reported**: what was wanted, what went wrong, and what the system said. -/
def failureText (request : Request) (fault : Fault) : String :=
  line ("Error: failed to generate " ++ request.type ++ " from " ++ request.source) ++
    "\nCaused by:\n" ++
    causesText (fault.message :: (fault.trouble?.map Trouble.message).toList)

/-- How a misuse is reported. -/
def misuseText (misuse : Misuse) : String :=
  line ("error: " ++ misuse.message) ++ "\nFor more information, try '--help'.\n"

/-! ## The command -/

/-- What a run comes to which generates nothing. -/
def haltOutcome (sourceValue : Option String) : Halt → Outcome
  | .misuse misuse => ⟨2, "", misuseText misuse⟩
  | .help brief =>
    let value := sourceValue.getD ""
    ⟨0, if brief then summary value else manual value, ""⟩
  | .version => ⟨0, versionText, ""⟩

/-- What a run comes to from the report of its generation. -/
def reportOutcome (filter : Filter) (request : Request) (report : Report String) : Outcome :=
  let log := logText filter report.events
  match report.outcome with
  | .ok _ => ⟨0, "", log⟩
  | .error fault => ⟨1, "", log ++ failureText request fault⟩

/-- An outcome with messages before those of its own. -/
def Outcome.after (messages : List String) (outcome : Outcome) : Outcome :=
  { outcome with messages := String.join (messages.map line) ++ outcome.messages }

/-- **The command.**  The filter is read first, so that what is wrong with it is always said. -/
def run {m : Type → Type} [Monad m] (host : Host m) (time : String) (environment : Environment)
    (arguments : List String) : m Outcome := do
  let (filter, complaints) := filterOf environment.ownFilter environment.commonFilter
  match requestOf arguments environment.source with
  | .error halt => return (haltOutcome environment.source halt).after complaints
  | .ok request =>
    let report ← generateToFile host time request.source request.type request.settings
    return (reportOutcome filter request report).after complaints

end EnumTables.Command
