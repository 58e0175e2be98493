import EnumTables.Source.Basic
import EnumTables.Source.Fault

/-!
# Reading tokens

A reader takes tokens from the front of what is left inside one pair of brackets, or fails at a place.

* `Cursor` and `Reader` — what is left, and what reads it.
* `atMark`, `atWord`, `atIdent`, `atGroup`, `atLifetime`, `atLiteral`, `skip` — looking ahead, on the
  tokens themselves.
* `mark`, `word`, `ident`, `lifetime`, `literal`, `inside` — taking one token.
* `separated`, `chained`, `repeated` — taking several.
* `attempt`, `spanned`, `taking` — readers about readers.
-/

namespace EnumTables.Source

open EnumTables.Token

/-! ## Looking ahead -/

/-- The words which are no identifiers. -/
def reservedWords : List String :=
  ["_", "abstract", "as", "become", "box", "break", "const", "continue", "crate", "do", "else", "enum",
    "extern", "false", "final", "fn", "for", "if", "impl", "in", "let", "loop", "macro", "match", "mod",
    "move", "mut", "override", "priv", "pub", "ref", "return", "Self", "self", "static", "struct",
    "super", "trait", "true", "type", "typeof", "unsafe", "unsized", "use", "virtual", "where", "while",
    "yield"]

/-- Whether the marks follow, all but the last of them joined to the next. -/
def atMarks : List Char → List Token → Bool
  | [c], .mark d _ _ :: _ => c == d
  | c :: more, .mark d joined _ :: rest => c == d && joined && atMarks more rest
  | _, _ => false

/-- Whether a mark of one or more characters follows.  It may be the beginning of a longer one. -/
def atMark (text : String) (tokens : List Token) : Bool :=
  atMarks text.toList tokens

/-- Whether a mark follows which is not the beginning of one of the others. -/
def atMarkOnly (text : String) (longer : List String) (tokens : List Token) : Bool :=
  atMark text tokens && !longer.any (atMark · tokens)

def atWord (text : String) : List Token → Bool
  | .ident found _ :: _ => found == text
  | _ => false

def atAnyWord (texts : List String) (tokens : List Token) : Bool :=
  texts.any (atWord · tokens)

/-- Whether an identifier or a reserved word follows. -/
def atAnyIdent : List Token → Bool
  | .ident _ _ :: _ => true
  | _ => false

def atIdent : List Token → Bool
  | .ident found _ :: _ => !reservedWords.contains found
  | _ => false

def atGroup (delimiter : Delimiter) : List Token → Bool
  | .group found _ _ :: _ => found == delimiter
  | _ => false

def atLifetime : List Token → Bool
  | .mark '\'' true _ :: .ident _ _ :: _ => true
  | _ => false

/-- Whether a number follows a minus sign. -/
def isNumber (text : String) : Bool :=
  match LiteralKind.ofText text with
  | .integer _ | .float => true
  | _ => false

/-- Whether a literal follows: `true`, `false` and numbers with a minus sign count as well. -/
def atLiteral : List Token → Bool
  | .literal _ _ :: _ => true
  | .mark '-' _ _ :: .literal text _ :: _ => isNumber text
  | tokens => atAnyWord ["true", "false"] tokens

def atString : List Token → Bool
  | .literal text _ :: _ => LiteralKind.ofText text == .string
  | _ => false

/-- The tokens behind the next one, where a lifetime counts as one. -/
def skip : List Token → List Token
  | .mark '\'' true _ :: .ident _ _ :: rest => rest
  | .mark '\'' true _ :: _ => []
  | _ :: rest => rest
  | [] => []

/-- Whether a `::` follows, and behind it what `test` looks for. -/
def behindColons (test : List Token → Bool) (tokens : List Token) : Bool :=
  atMark "::" tokens && test (skip (skip tokens))

/-! ## Readers -/

/-- What is left to read inside the brackets around it. -/
structure Cursor where
  rest : List Token
  /-- Where the end stands: the closing bracket. -/
  scope : Span
  /-- The token which was read last. -/
  last : Span
  /-- The first token which was left where a bracket closed. -/
  leftover : Option Span
deriving Repr

/-- **Readers.** -/
abbrev Reader := StateT Cursor (Except Misread)

/-- What is left. -/
def ahead : Reader (List Token) := return (← get).rest

def peek (test : List Token → Bool) : Reader Bool := return test (← ahead)

/-- Whether nothing is left. -/
def ended : Reader Bool := peek List.isEmpty

/-- The span of the next token. -/
def here : Reader Span := do
  let cursor ← get
  return (cursor.rest.head?.map Token.span).getD cursor.scope

def fail {α : Type} (fault : SyntaxFault) (span : Span) : Reader α :=
  throw ⟨fault, span⟩

/-- Fails because something else was wanted. -/
def wanting {α : Type} (wanted : List String) : Reader α := do
  let cursor ← get
  match cursor.rest with
  | [] => fail (.expected wanted true) cursor.scope
  | token :: _ =>
    fail (.expected wanted false) (if wanted.isEmpty then token.span else token.openSpan)

/-- Fails for a reason of its own, with the wording of what is wanted at the end. -/
def refuse {α : Type} (reason : String) : Reader α := do
  let cursor ← get
  match cursor.rest with
  | [] => fail (.notice ("unexpected end of input, " ++ reason)) cursor.scope
  | token :: _ => fail (.notice reason) token.openSpan

/-- What an error calls a mark or a word. -/
def ticked (text : String) : String := "`" ++ text ++ "`"

/-! ## One token -/

/-- Takes the next `count` tokens. -/
def take (count : Nat) : Reader Unit :=
  modify fun cursor =>
    { cursor with
      rest := cursor.rest.drop count
      last := ((cursor.rest.take count).getLast?.map Token.span).getD cursor.last }

/-- Takes a mark.  At the end this is said like anywhere else. -/
def mark (text : String) : Reader Unit := do
  let cursor ← get
  if atMark text cursor.rest then take text.length
  else fail (.expected [ticked text] false) ((cursor.rest.head?.map Token.openSpan).getD cursor.scope)

/-- Takes a mark if it follows. -/
def mark? (text : String) : Reader Bool := do
  if ← peek (atMark text) then
    mark text
    return true
  else
    return false

def word (text : String) : Reader Unit := do
  if ← peek (atWord text) then take 1 else wanting [ticked text]

/-- Takes a word if it follows. -/
def word? (text : String) : Reader Bool := do
  if ← peek (atWord text) then
    take 1
    return true
  else
    return false

/-- An identifier or a reserved word. -/
def anyIdent : Reader Identifier := do
  match ← ahead with
  | .ident text span :: _ =>
    take 1
    return ⟨text, span⟩
  | _ => wanting ["ident"]

def ident : Reader Identifier := do
  if ← peek atIdent then anyIdent else wanting ["identifier"]

/-- An identifier, or one of the words. -/
def identOr (words : List String) : Reader Identifier := do
  if ← peek (atAnyWord words) then anyIdent else ident

/-- An identifier if one follows. -/
def ident? : Reader Unit := do
  if ← peek atIdent then take 1

/-- The span of the name of a lifetime. -/
def lifetime : Reader Span := do
  match ← ahead with
  | .mark '\'' true _ :: .ident _ span :: _ =>
    take 2
    return span
  | _ => wanting ["lifetime"]

/-- A lifetime if one follows. -/
def lifetime? : Reader Unit := do
  if ← peek atLifetime then discard lifetime

/-- Any literal. -/
def literal : Reader Unit := do
  let tokens ← ahead
  if atLiteral tokens then take (if atMark "-" tokens then 2 else 1) else wanting ["literal"]

def stringLiteral : Reader Unit := do
  if ← peek atString then take 1 else wanting ["string literal"]

/-- Reads what stands in brackets.  What is left there is remembered, and refused in the end. -/
def inside {α : Type} (delimiter : Delimiter) (body : Reader α) : Reader α := do
  let cursor ← get
  match cursor.rest with
  | .group found inner span :: rest =>
    if found = delimiter then
      let closing := (Token.group found inner span).closeSpan
      set { cursor with rest := inner, scope := closing }
      let value ← body
      let after ← get
      set { cursor with
        rest := rest
        last := span
        leftover := after.leftover <|> after.rest.head?.map Token.span }
      return value
    else wanting [delimiter.describe]
  | _ => wanting [delimiter.describe]

/-- Takes brackets of any kind with all that stands in them; whether they are braces. -/
def anyGroup : Reader Bool := do
  match ← ahead with
  | .group delimiter _ _ :: _ =>
    take 1
    return delimiter == .brace
  | _ => wanting ["delimiter"]

/-! ## Readers about readers -/

/-- What `body` reads, or nothing and no step forward if it fails. -/
def attempt {α : Type} (body : Reader α) : Reader (Option α) := fun cursor =>
  match body cursor with
  | .ok (value, after) => .ok (some value, after)
  | .error _ => .ok (none, cursor)

/-- Together with the span from the first token to the last. -/
def spanned {α : Type} (body : Reader α) : Reader (α × Span) := do
  let first ← here
  let value ← body
  return (value, first.join (← get).last)

/-- Together with the tokens which were read. -/
def taking {α : Type} (body : Reader α) : Reader (α × List Token) := do
  let before ← ahead
  let value ← body
  return (value, before.take (before.length - (← ahead).length))

/-! ## Several -/

/-- Whether to go on. -/
inductive Turn (α : Type) where
  | more (value : α)
  | done (value : α)

/-- At most `bound` turns. -/
def turns {α : Type} (step : α → Reader (Turn α)) : Nat → α → Reader α
  | 0, value => return value
  | bound + 1, value => do
    match ← step value with
    | .more next => turns step bound next
    | .done result => return result

/-- Goes on until `step` is done.  Each turn but the last has to read something, so that there are not
more of them than tokens. -/
def repeated {α : Type} (step : α → Reader (Turn α)) (value : α) : Reader α := do
  turns step ((← ahead).length + 1) value

/-- Reads `body` while tokens are found which `test` looks for. -/
def whileAt (test : List Token → Bool) (body : Reader Unit) : Reader Unit :=
  repeated (fun _ => do
    if ← peek test then
      body
      return .more ()
    else
      return .done ()) ()

/-- Reads `body` until nothing is left. -/
def untilEnd {α : Type} (body : Reader α) : Reader (List α) := do
  let found ← repeated (fun found => do
    if ← ended then return .done found else return .more ((← body) :: found)) []
  return found.reverse

/-- Reads `body` until `stop` is found, with a separator between two of them and, if need be, behind the
last. -/
def separated {α : Type} (stop : List Token → Bool) (separator : String) (body : Reader α) :
    Reader (List α) := do
  let found ← repeated (fun found => do
    if ← peek stop then return .done found
    else
      let found := (← body) :: found
      if ← peek stop then return .done found
      else
        mark separator
        return .more found) []
  return found.reverse

/-- A list which fills the brackets, with commas. -/
def listed {α : Type} (body : Reader α) : Reader (List α) :=
  separated List.isEmpty "," body

/-- Reads `body` until `stop` is found or no separator follows. -/
def chained (stop : List Token → Bool) (separator : String) (body : Reader Unit) : Reader Unit :=
  repeated (fun _ => do
    if ← peek stop then return .done ()
    else
      body
      if ← mark? separator then return .more () else return .done ()) ()

end EnumTables.Source
