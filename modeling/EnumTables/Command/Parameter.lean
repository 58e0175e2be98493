import EnumTables.Text.NameCase

/-!
# Parameters of the command

* `Parameter` — what can be given on the command line.
* `Parameter.long`, `Parameter.short?` — how it is called there.
* `Parameter.valueName?` — what its value is called, if it takes one.
* `Parameter.shown` — how it is written about.
-/

namespace EnumTables.Command

open EnumTables.Text

/-- What can be given on the command line. -/
inductive Parameter where
  | type
  | source
  | output
  | convention
  | runtime
  | registry
  | noTimestamp
  | noRustfmt
  | help
  | version
deriving DecidableEq, Repr

namespace Parameter

/-- All parameters, in the order in which they are explained. -/
def all : List Parameter :=
  [type, source, output, convention, runtime, registry, noTimestamp, noRustfmt, help, version]

/-- The name behind two dashes. -/
def long : Parameter → String
  | type => "type"
  | source => "source"
  | output => "output"
  | convention => "case"
  | runtime => "runtime"
  | registry => "registry"
  | noTimestamp => "no-timestamp"
  | noRustfmt => "no-rustfmt"
  | help => "help"
  | version => "version"

/-- The letter behind one dash. -/
def short? : Parameter → Option Char
  | help => some 'h'
  | version => some 'V'
  | _ => none

/-- What the value of a parameter is called, if it takes one. -/
def valueName? : Parameter → Option String
  | type => some "NAME"
  | source => some "SOURCE"
  | output => some "OUTPUT"
  | convention => some "CASE"
  | runtime => some "RUNTIME"
  | registry | noTimestamp | noRustfmt | help | version => none

def takesValue (parameter : Parameter) : Bool := parameter.valueName?.isSome

/-- How a parameter is written about. -/
def shown (parameter : Parameter) : String :=
  "--" ++ parameter.long ++
    match parameter.valueName? with
    | some name => " <" ++ name ++ ">"
    | none => ""

/-- The parameter of a name. -/
def ofLong? (name : String) : Option Parameter :=
  all.find? (·.long == name)

theorem ofLong?_long (parameter : Parameter) : ofLong? parameter.long = some parameter := by
  cases parameter <;> rfl

/-- The parameter of a letter. -/
def ofShort? (letter : Char) : Option Parameter :=
  all.find? (·.short? == some letter)

end Parameter

/-- The variable which names the source if the command line does not. -/
def sourceVariable : String := "ENUMGEN_FILE"

end EnumTables.Command
