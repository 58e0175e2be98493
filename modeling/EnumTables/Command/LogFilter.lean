import EnumTables.Generation.Event
import EnumTables.Text.Trim

/-!
# Which events are logged

A filter is written as directives with commas between them, such as `warn` or `enums_codegen=debug`.  All events
of the command come from one place, its target; spans and fields can be named in a directive, but events of
the command have no span, and the message as their only field.

* `Threshold` — the least level which is logged, if any.
* `Directive` and `directiveOf` — one directive.
* `Filter` and `Filter.admits` — the directives which can admit events, and what they admit.
* `lenientFilter`, `strictFilter?` — filters from text.
* `filterOf` — the filter which the environment asks for.
-/

namespace EnumTables.Command

open EnumTables.Generation EnumTables.Text

/-! ## Levels -/

/-- The last level which is logged; none is if everything is off. -/
abbrev Threshold := Option Level

/-- Thresholds by their names and numbers. -/
def thresholdNames : List (String × Threshold) :=
  [("off", none), ("error", some .error), ("warn", some .warn), ("info", some .info),
    ("debug", some .debug), ("trace", some .trace)]

/-- The number of a text of digits, perhaps behind a plus. -/
def numberOf? (text : List Char) : Option Nat :=
  let digits := if text.head? = some '+' then text.drop 1 else text
  if !digits.isEmpty && digits.all Char.isDigit then
    some (digits.foldl (fun value digit => 10 * value + (digit.toNat - '0'.toNat)) 0)
  else none

/-- The threshold of a name, in capitals or not, or of a number. -/
def thresholdOf? (text : List Char) : Option Threshold :=
  match numberOf? text with
  | some number => (thresholdNames[number]?).map Prod.snd
  | none => thresholdNames.lookup (String.ofList (text.map Char.toLower))

/-! ## Directives -/

/-- One directive of a filter. -/
structure Directive where
  target : Option String
  /-- Whether it is about a span or about the value of a field, so that no event of the command is meant. -/
  narrow : Bool
  /-- The field which an event has to have. -/
  field : Option String
  threshold : Threshold
deriving DecidableEq, Repr

/-- Why a text is no directive. -/
inductive DirectiveFault where
  | form
  | level
deriving DecidableEq, Repr

/-- The wording of a fault. -/
def DirectiveFault.message : DirectiveFault → String
  | form => "invalid filter directive"
  | level =>
    "error parsing level filter: expected one of \"off\", \"error\", \"warn\", \"info\", \"debug\", \"trace\", or a number 0-5"

/-- The threshold behind an equals sign; none written means all events. -/
def levelOf (text : List Char) : Except DirectiveFault Threshold :=
  if text.isEmpty then .ok (some .trace)
  else
    match thresholdOf? text with
    | some threshold => .ok threshold
    | none => .error .level

/-- **A directive as it is read.**  Its shape is looked at without white space around it, but its parts are
cut out of the text at the places where the shape has them, with white space counted in: white space before
the text moves all parts to the left, and white space behind it belongs to the last one. -/
structure Draft where
  shape : List Char
  text : List Char
deriving DecidableEq, Repr

namespace Draft

def ofText (text : List Char) : Draft := ⟨trimmed text, text⟩

/-- What is left behind some characters. -/
def drop (draft : Draft) (count : Nat) : Draft := ⟨draft.shape.drop count, draft.text.drop count⟩

/-- The part before the first character which ends it, and the rest. -/
def cut (draft : Draft) (ends : Char → Bool) : List Char × Draft :=
  let length := (draft.shape.takeWhile fun c => !ends c).length
  (draft.text.take length, draft.drop length)

end Draft

/-- What stands behind the span of a directive: nothing, or a level. -/
def levelAfterSpan (draft : Draft) : Except DirectiveFault Threshold :=
  match draft.shape with
  | [] => .ok (some .trace)
  | '=' :: _ => levelOf (draft.drop 1).text
  | _ => .error .form

/-- A directive behind its opening bracket, with the name of a span, a field, or both. -/
def spanDirective (target : Option String) (draft : Draft) : Except DirectiveFault Directive := do
  let (span, rest) := draft.cut fun c => c == ']' || c == '\x7b'
  match rest.shape with
  | ']' :: _ => return ⟨target, true, none, ← levelAfterSpan (rest.drop 1)⟩
  | '\x7b' :: _ =>
    let (field, rest) := (rest.drop 1).cut (· == '\x7d')
    if field.isEmpty then throw .form
    match rest.shape with
    | '\x7d' :: ']' :: _ =>
      return ⟨target, !span.isEmpty || field.contains '=', some (String.ofList field),
        ← levelAfterSpan (rest.drop 2)⟩
    | _ => throw .form
  | _ => throw .form

/-- Whether a directive without a bracket may begin with a character. -/
def mayBegin (c : Char) : Bool :=
  isAlphanumeric c || c == '-' || c == ':' || c == '_'

/-- A directive from its draft. -/
def Draft.directive (draft : Draft) : Except DirectiveFault Directive := do
  match draft.shape with
  | [] => throw .form
  | '[' :: _ => spanDirective none (draft.drop 1)
  | first :: _ =>
    if !mayBegin first then throw .form
    let (name, rest) := draft.cut fun c => c == '=' || c == '['
    match rest.shape with
    | [] =>
      match thresholdOf? draft.text with
      | some threshold => return ⟨none, false, none, threshold⟩
      | none => return ⟨some (String.ofList draft.text), false, none, some .trace⟩
    | '=' :: _ => return ⟨some (String.ofList name), false, none, ← levelOf (rest.drop 1).text⟩
    | _ => spanDirective (some (String.ofList name)) (rest.drop 1)

/-- **One directive**: a level, a target, or a target with a level behind an equals sign, and perhaps a span
in brackets. -/
def directiveOf (text : List Char) : Except DirectiveFault Directive :=
  (Draft.ofText text).directive

/-! ## Filters -/

/-- **A filter**: directives, of which those count that are about events. -/
abbrev Filter := List Directive

/-- Where the events of the command come from. -/
def eventTarget : String := "enums_codegen"

/-- The only field of an event. -/
def eventField : String := "message"

/-- Whether a directive is about the events of the command. -/
def Directive.concerns (directive : Directive) : Bool :=
  !directive.narrow && directive.target.all (fun target => eventTarget.startsWith target) &&
    directive.field.all (· == eventField)

/-- How special a directive is: by the length of its target, and then by whether it names a field. -/
def Directive.weight (directive : Directive) : Nat :=
  2 * (match directive.target with
    | none => 0
    | some target => target.length + 1) + if directive.field.isSome then 1 else 0

/-- The more special of two directives, or the later one. -/
def moreSpecial (best : Option Directive) (directive : Directive) : Option Directive :=
  match best with
  | some other => if other.weight ≤ directive.weight then some directive else best
  | none => some directive

/-- What is logged without any directive. -/
def fallbackThreshold : Threshold := some .error

/-- The threshold for the events of the command. -/
def Filter.threshold (filter : Filter) : Threshold :=
  if filter.isEmpty then fallbackThreshold
  else ((filter.filter Directive.concerns).foldl moreSpecial none).bind Directive.threshold

/-- **Whether events of a level are logged.** -/
def Filter.admits (filter : Filter) (level : Level) : Bool :=
  filter.threshold.any fun threshold => level.rank ≤ threshold.rank

/-! ## Filters from text -/

/-- The directives of a text, as they are written. -/
def pieces (text : String) : List (List Char) :=
  (text.toList.splitOn ',').filter (!·.isEmpty)

/-- A filter from the directives which can be read, and what is said about the others. -/
def lenientFilter (text : String) : Filter × List String :=
  (pieces text).foldr (fun piece (filter, complaints) =>
    match directiveOf piece with
    | .ok directive => (directive :: filter, complaints)
    | .error fault =>
      (filter, ("ignoring `" ++ String.ofList piece ++ "`: " ++ fault.message) :: complaints))
    ([], [])

/-- A filter from directives which can all be read. -/
def strictFilter? (text : String) : Option Filter :=
  ((pieces text).mapM directiveOf).toOption

/-- What is logged if the environment does not say it. -/
def usualFilter : Filter := [⟨none, false, none, some .info⟩]

/-- **The filter which the environment asks for**, and what is said about it: by the variable of the
command, or else by the common one. -/
def filterOf (own common : Option String) : Filter × List String :=
  match own with
  | some text => lenientFilter text
  | none => ((common.bind strictFilter?).getD usualFilter, [])

end EnumTables.Command
