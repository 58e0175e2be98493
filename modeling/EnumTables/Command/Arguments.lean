import EnumTables.Command.Parameter
import EnumTables.Generation.Basic

/-!
# Reading the command line

* `Misuse` — why a command line is not understood.
* `Halt` — what ends the reading: a misuse, or a wish for help.
* `Progress` — what was read so far.
* `Progress.settle`, `Progress.take` — a parameter whose value is complete, and one more argument.
* `Request` and `requestOf` — what a command line asks for.
-/

namespace EnumTables.Command

open EnumTables.Generation EnumTables.Text

/-! ## What ends the reading -/

/-- Why a command line is not understood. -/
inductive Misuse where
  | noValue (parameter : Parameter)
  | badValue (parameter : Parameter) (value : String)
  | repeated (parameter : Parameter)
  /-- A value for a parameter which takes none. -/
  | surplusValue (parameter : Parameter) (value : String)
  | unexpected (argument : String)
  /-- A parameter which has to be there is not. -/
  | incomplete
deriving DecidableEq, Repr

/-- The wording of a misuse. -/
def Misuse.message : Misuse → String
  | noValue parameter => "a value is required for '" ++ parameter.shown ++ "' but none was supplied"
  | badValue parameter value => "invalid value '" ++ value ++ "' for '" ++ parameter.shown ++ "'"
  | repeated parameter => "the argument '" ++ parameter.shown ++ "' cannot be used multiple times"
  | surplusValue parameter value =>
    "unexpected value '" ++ value ++ "' for '" ++ parameter.shown ++ "' found; no more were expected"
  | unexpected argument => "unexpected argument '" ++ argument ++ "' found"
  | incomplete => "the following required arguments were not provided:"

/-- What ends the reading of a command line. -/
inductive Halt where
  | misuse (misuse : Misuse)
  /-- The long page of help, or the short one. -/
  | help (brief : Bool)
  | version
deriving DecidableEq, Repr

/-! ## Values -/

/-- What a value of a parameter is not allowed to be. -/
def refused? (parameter : Parameter) (value : String) : Option Misuse :=
  match parameter with
  | .source | .output => if value.isEmpty then some (.noValue parameter) else none
  | .convention =>
    if value.isEmpty then some (.noValue parameter)
    else if (NameCase.ofLabel? value).isNone then some (.badValue parameter value)
    else none
  | _ => none

/-- A parameter whose value may come as the next argument. -/
structure Pending where
  parameter : Parameter
  value : Option String
deriving DecidableEq, Repr

/-- What was read so far. -/
structure Progress where
  /-- Parameters with their values, which are empty for those that take none. -/
  given : List (Parameter × String)
  pending : Option Pending
  /-- Whether two dashes have ended the parameters. -/
  closed : Bool
deriving DecidableEq, Repr

namespace Progress

def start : Progress := ⟨[], none, false⟩

/-- The value which was given for a parameter. -/
def value? (progress : Progress) (parameter : Parameter) : Option String :=
  progress.given.lookup parameter

def has (progress : Progress) (parameter : Parameter) : Bool :=
  (progress.value? parameter).isSome

/-- Takes a parameter with its value, if that is allowed.  A missing value is found before a repeated
parameter, and that before a bad value. -/
def accept (progress : Progress) (parameter : Parameter) (value : Option String) :
    Except Misuse Progress :=
  if parameter.takesValue && value.isNone then .error (.noValue parameter)
  else if progress.has parameter then .error (.repeated parameter)
  else
    let value := value.getD ""
    match refused? parameter value with
    | some misuse => .error misuse
    | none => .ok { progress with given := (parameter, value) :: progress.given }

/-- Takes the parameter which is pending. -/
def settle (progress : Progress) : Except Halt Progress :=
  match progress.pending with
  | none => .ok progress
  | some pending =>
    ({ progress with pending := none }.accept pending.parameter pending.value).mapError .misuse

/-- Takes a parameter which is followed by no value. -/
def takeFlag (progress : Progress) (parameter : Parameter) (brief : Bool) : Except Halt Progress := do
  let settled ← progress.settle
  match parameter with
  | .help => throw (.help brief)
  | .version => throw .version
  | _ => (settled.accept parameter none).mapError .misuse

/-! ## Arguments -/

/-- A name behind two dashes, with the value behind an equals sign. -/
def takeLong (progress : Progress) (name : String) (value : Option String) : Except Halt Progress :=
  match Parameter.ofLong? name with
  | none => .error (.misuse (.unexpected ("--" ++ name)))
  | some parameter =>
    match parameter.takesValue, value with
    | false, none => progress.takeFlag parameter false
    | false, some value => .error (.misuse (.surplusValue parameter value))
    | true, none => do return { ← progress.settle with pending := some ⟨parameter, none⟩ }
    | true, some value => do ((← progress.settle).accept parameter (some value)).mapError .misuse

/-- Letters behind one dash.  The first decides: those which are known end the reading. -/
def takeShort (progress : Progress) (letter : Char) : Except Halt Progress :=
  match Parameter.ofShort? letter with
  | some parameter => progress.takeFlag parameter true
  | none => .error (.misuse (.unexpected (String.ofList ['-', letter])))

/-- An argument which is no parameter: the value of the pending one, or nothing that is expected. -/
def takeValue (progress : Progress) (argument : String) : Except Halt Progress :=
  match progress.pending with
  | some ⟨parameter, none⟩ => .ok { progress with pending := some ⟨parameter, some argument⟩ }
  | _ => .error (.misuse (.unexpected argument))

/-- **One more argument.**  Behind two dashes nothing is expected. -/
def take (progress : Progress) (argument : String) : Except Halt Progress :=
  if progress.closed then .error (.misuse (.unexpected argument))
  else
    match argument.toList with
    | ['-', '-'] => .ok { progress with closed := true }
    | '-' :: '-' :: rest =>
      let name := rest.takeWhile (· != '=')
      let value := rest.drop name.length
      progress.takeLong (String.ofList name)
        (if value.isEmpty then none else some (String.ofList (value.drop 1)))
    | '-' :: letter :: _ => progress.takeShort letter
    | _ => progress.takeValue argument

end Progress

/-! ## Requests -/

/-- What a command line asks for. -/
structure Request where
  type : String
  source : String
  settings : Settings
deriving DecidableEq, Repr

/-- The progress with the source taken from its variable, if nothing else names it. -/
def withVariable (progress : Progress) (sourceValue : Option String) : Except Halt Progress :=
  match sourceValue with
  | some value =>
    if progress.has .source then .ok progress
    else (progress.accept .source (some value)).mapError .misuse
  | none => .ok progress

/-- The settings which were chosen. -/
def settingsOf (progress : Progress) : Settings :=
  let defaults : Settings := {}
  { output := progress.value? .output
    convention := ((progress.value? .convention).bind NameCase.ofLabel?).getD defaults.convention
    runtime := (progress.value? .runtime).getD defaults.runtime
    registry := progress.has .registry
    timestamp := !progress.has .noTimestamp
    formatted := !progress.has .noRustfmt }

/-- **What a command line asks for.**  `sourceValue` is the value of the variable which names the source. -/
def requestOf (arguments : List String) (sourceValue : Option String) : Except Halt Request := do
  let read ← arguments.foldlM Progress.take .start
  let progress ← withVariable (← read.settle) sourceValue
  match progress.value? .type, progress.value? .source with
  | some type, some source => return ⟨type, source, settingsOf progress⟩
  | _, _ => throw (.misuse .incomplete)

end EnumTables.Command
