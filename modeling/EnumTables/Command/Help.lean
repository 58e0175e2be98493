import EnumTables.Command.Parameter
import EnumTables.Companion.File
import EnumTables.Generation.Basic

/-!
# Help

* `Parameter.about` — what a parameter is for.
* `summary` and `manual` — the short page and the long one.
* `versionText` — the version of the command.
-/

namespace EnumTables.Command

open EnumTables.Text

/-! ## What there is to say -/

/-- The name of the command. -/
def commandName : String := "enumgen"

def versionText : String := commandName ++ " " ++ Companion.version ++ "\n"

/-- What a parameter is for.  `brief` tells which of the two pages it is said on. -/
def Parameter.about (brief : Bool) : Parameter → String
  | .type => "Name of the tuple struct whose constants are collected"
  | .source => "Rust source file declaring the type and its constants"
  | .output => "Output file, `<source stem>_enum.rs` next to the source by default"
  | .convention => "Case convention of the listed names"
  | .runtime => "Path of the runtime crate in the generated code"
  | .registry => "Also generate the `enumeration()` accessor backed by the runtime registry"
  | .noTimestamp => "Leave the time of generation out of the header"
  | .noRustfmt => "Do not format the output with rustfmt"
  | .help => if brief then "Print help (see more with '--help')" else "Print help (see a summary with '-h')"
  | .version => "Print version"

/-- What a convention does, by example. -/
def conventionAbout : NameCase → String
  | .verbatim => "Keep the constant identifier as it is"
  | .pascal => "`LIGHT_ON` becomes `LightOn`"
  | .snake => "`LIGHT_ON` becomes `light_on`"
  | .kebab => "`LIGHT_ON` becomes `light-on`"
  | .lower => "`LightOn` becomes `lighton`"
  | .upper => "`LightOn` becomes `LIGHT_ON`"

/-- What else a parameter takes its value from.  `variable` is the value of the variable which names the
source. -/
def Parameter.origins (sourceValue : String) : Parameter → List String
  | .source => ["[env: " ++ sourceVariable ++ "=" ++ sourceValue ++ "]"]
  | .convention => ["[default: " ++ NameCase.verbatim.label ++ "]"]
  | .runtime =>
    let defaults : Generation.Settings := {}
    ["[default: " ++ defaults.runtime ++ "]"]
  | _ => []

/-- The values which a parameter can have, if they are few. -/
def Parameter.choices : Parameter → List NameCase
  | .convention => NameCase.all
  | _ => []

/-! ## Pages -/

/-- A text with blanks behind it, up to a width. -/
def padded (width : Nat) (text : String) : String :=
  text ++ String.ofList (List.replicate (width - text.length) ' ')

/-- The greatest width of some texts. -/
def widest (texts : List String) : Nat := (texts.map String.length).foldl max 0

/-- How a parameter begins its lines. -/
def Parameter.heading (parameter : Parameter) : String :=
  match parameter.short? with
  | some letter => "  -" ++ String.singleton letter ++ ", " ++ parameter.shown
  | none => "      " ++ parameter.shown

/-- What stands above the parameters. -/
def usage : String :=
  "Usage: " ++ commandName ++ " [OPTIONS] " ++ Parameter.type.shown ++ " " ++ Parameter.source.shown

/-- The line of a parameter on the short page. -/
def summaryLine (sourceValue : String) (parameter : Parameter) : String :=
  let choices :=
    if parameter.choices.isEmpty then []
    else ["[possible values: " ++ ", ".intercalate (parameter.choices.map NameCase.label) ++ "]"]
  padded (widest (Parameter.all.map Parameter.heading) + 2) parameter.heading ++
    " ".intercalate (parameter.about true :: parameter.origins sourceValue ++ choices)

/-- **The short page.** -/
def summary (sourceValue : String) : String :=
  usage ++ "\n\nOptions:\n" ++
    "\n".intercalate (Parameter.all.map (summaryLine sourceValue)) ++ "\n"

/-- The left margin of explanations on the long page. -/
def margin : String := "          "

/-- The lines which explain the values that a parameter can have. -/
def choiceLines (choices : List NameCase) : List String :=
  if choices.isEmpty then []
  else
    let width := widest (choices.map NameCase.label) + 2
    "" :: (margin ++ "Possible values:") :: choices.map fun choice =>
      margin ++ "- " ++ padded width (choice.label ++ ":") ++ conventionAbout choice

/-- The lines of a parameter on the long page. -/
def manualLines (sourceValue : String) (parameter : Parameter) : List String :=
  [parameter.heading, margin ++ parameter.about false] ++ choiceLines parameter.choices ++
    (parameter.origins sourceValue).flatMap fun origin => [margin, margin ++ origin]

/-- **The long page.** -/
def manual (sourceValue : String) : String :=
  usage ++ "\n\nOptions:\n" ++
    "\n\n".intercalate (Parameter.all.map fun parameter =>
      "\n".intercalate (manualLines sourceValue parameter)) ++ "\n"

end EnumTables.Command
