import EnumTables.Source.Types

/-!
# Patterns

* `Rules.alternatives` — patterns with `|` between them, with or without one in front.
* `fieldName` — a field by its name or its position.
* `Rules.rangeEnd` — a literal or a path, as a pattern or as the end of a range of patterns.
* `Rules.readPattern` — a pattern.
-/

namespace EnumTables.Source

open EnumTables.Token

/-! ## Alternatives -/

/-- Whether a `|` follows which stands for itself. -/
def atBar : List Token → Bool :=
  atMarkOnly "|" ["||", "|="]

/-- Patterns with `|` between them. -/
def Rules.alternatives (rules : Rules) : Reader Unit := do
  rules.pattern
  whileAt atBar do
    mark "|"
    rules.pattern

/-- Patterns with `|` between them, and maybe one in front. -/
def Rules.anyAlternatives (rules : Rules) : Reader Unit := do
  discard <| mark? "|"
  rules.alternatives

/-! ## Fields -/

/-- Whether a token is an integer, with a minus sign or without. -/
def atInteger : List Token → Bool
  | .literal text _ :: _ | .mark '-' _ _ :: .literal text _ :: _ =>
    match LiteralKind.ofText text with
    | .integer _ => true
    | _ => false
  | _ => false

/-- The greatest position of a field, and one more. -/
def positionBound : Nat := Nat.pow 2 32

/-- The position an integer literal stands for, or why it stands for none. -/
def position? (text : String) : Except String Nat :=
  match IntegerLiteral.ofText? text with
  | none => .error "expected integer literal"
  | some ⟨magnitude, suffix⟩ =>
    if suffix ≠ "" then .error "expected unsuffixed integer"
    else if positionBound ≤ magnitude then .error "number too large to fit in target type"
    else .ok magnitude

/-- A field by its name, or by its position, which is given. -/
def fieldName : Reader (Option Nat) := do
  match ← ahead with
  | .literal text span :: rest =>
    if atInteger (.literal text span :: rest) then
      take 1
      match position? text with
      | .ok index => return some index
      | .error reason => fail (.notice reason) span
    else refuse "expected identifier or integer"
  | tokens =>
    if atIdent tokens then
      discard ident
      return none
    else if atInteger tokens then
      let ((), span) ← spanned literal
      fail (.notice "invalid digit found in string") span
    else refuse "expected identifier or integer"

/-- A field of a struct pattern: what it is bound to, or a pattern for it. -/
def Rules.fieldPattern (rules : Rules) : Reader Unit := do
  let boxed ← word? "box"
  let byRef ← word? "ref"
  let mutable_ ← word? "mut"
  if boxed || byRef || mutable_ then discard ident
  else
    let index ← fieldName
    if index.isSome || (← peek (atMark ":")) then
      mark ":"
      rules.anyAlternatives

/-- The fields of a struct pattern, up to `..` if it is written. -/
def Rules.structPattern (rules : Rules) : Reader Unit :=
  inside .brace <| repeated (fun _ => do
    if ← ended then return .done ()
    else
      discard attributes
      if ← mark? ".." then return .done ()
      else
        rules.fieldPattern
        if ← ended then return .done ()
        else
          mark ","
          return .more ()) ()

/-- Patterns in parentheses or square brackets. -/
def Rules.patternList (rules : Rules) (delimiter : Delimiter) : Reader Unit :=
  discard <| inside delimiter (listed rules.anyAlternatives)

/-! ## Ranges -/

/-- `..`, `..=` or `...`; whether the end is included. -/
def rangeMark : Reader Bool := do
  if ← mark? "..=" then return true
  else if ← mark? "..." then return true
  else if ← mark? ".." then return false
  else wanting [ticked "..=", ticked "...", ticked ".."]

/-- A block behind `const`. -/
def Rules.constBlock (rules : Rules) : Reader Unit := do
  word "const"
  rules.body

/-- Whether a pattern ends here. -/
def atPatternEnd (tokens : List Token) : Bool :=
  tokens.isEmpty || atMarkOnly ":" ["::"] tokens || ["|", "=", ",", ";"].any (atMark · tokens) ||
    atWord "if" tokens

/-- A literal or a path, as a pattern or as the end of a range; whether there is one. -/
def Rules.rangeEnd (rules : Rules) : Reader Bool := do
  if ← peek atPatternEnd then return false
  else
    discard <| mark? "-"
    let tokens ← ahead
    if atLiteral tokens then literal
    else if atPathStart tokens || atMark "<" tokens then discard (rules.qualifiedPath true)
    else if atWord "const" tokens then rules.constBlock
    else wanting ["literal", "identifier", ticked "::", ticked "<", ticked "self", ticked "Self",
      ticked "super", ticked "crate", ticked "const"]
    return true

/-- The rest of a range, behind its first end. -/
def Rules.rangeRest (rules : Rules) : Reader Unit := do
  discard rangeMark
  discard rules.rangeEnd

/-! ## All patterns -/

/-- Whether an identifier follows which begins more than a binding. -/
def atNamedPattern (tokens : List Token) : Bool :=
  let behind := skip tokens
  let rangeFollows :=
    let rest := behind.drop (if atMark "..=" behind || atMark "..." behind then 3 else 2)
    atMark ".." behind && !rest.isEmpty && !atMark "," rest
  (atIdent tokens &&
    (atMark "::" behind || atMark "!" behind || atGroup .brace behind || atGroup .paren behind ||
      rangeFollows)) ||
  (atWord "self" tokens && atMark "::" behind) || atMark "::" tokens || atMark "<" tokens ||
  atAnyWord ["Self", "super", "crate"] tokens

/-- A pattern which begins with a path. -/
def Rules.namedPattern (rules : Rules) : Reader Unit := do
  let (qualified, found) ← rules.qualifiedPath true
  let tokens ← ahead
  if !qualified && atMarkOnly "!" ["!="] tokens && found.segments.all (·.arguments.isNone) then
    mark "!"
    discard anyGroup
  else if atGroup .brace tokens then rules.structPattern
  else if atGroup .paren tokens then rules.patternList .paren
  else if atMark ".." tokens then rules.rangeRest

/-- A binding, and the pattern behind `@`. -/
def Rules.binding (rules : Rules) : Reader Unit := do
  discard <| word? "ref"
  discard <| word? "mut"
  discard <| identOr ["self"]
  if ← mark? "@" then rules.pattern

/-- What a pattern may begin with. -/
def patternStarts : List String :=
  ["identifier", ticked "::", ticked "<", ticked "_", "literal", ticked "ref", ticked "mut",
    ticked "&", "parentheses", "square brackets", ticked "..", ticked "const"]

/-- **A pattern.** -/
def Rules.readPattern (rules : Rules) : Reader Unit := do
  let tokens ← ahead
  if atNamedPattern tokens then rules.namedPattern
  else if atWord "_" tokens then word "_"
  else if atWord "box" tokens then
    word "box"
    rules.pattern
  else if atMark "-" tokens || atLiteral tokens then
    discard rules.rangeEnd
    if ← peek (atMark "..") then rules.rangeRest
  else if atAnyWord ["ref", "mut", "self"] tokens || atIdent tokens then rules.binding
  else if atMark "&" tokens then
    mark "&"
    discard <| word? "mut"
    rules.pattern
  else if atGroup .paren tokens then rules.patternList .paren
  else if atGroup .bracket tokens then rules.patternList .bracket
  else if atMarkOnly ".." ["..."] tokens then
    let closed ← rangeMark
    unless ← rules.rangeEnd do
      if closed then refuse "expected range upper bound"
  else if atWord "const" tokens then rules.constBlock
  else wanting patternStarts

end EnumTables.Source
