import EnumTables.Source.Rules

/-!
# Paths

* `plainPath` — identifiers with `::` between them.
* `attributes`, `innerAttributes` — what begins with `#`.
* `Rules.readPath` — a path with arguments, which an expression writes behind `::`.
* `Rules.qualifiedPath` — a path which may begin with `<..>::`.
* `Rules.typePath` — a path with arguments in parentheses, as in `Fn(u8) -> u8`.
* `Rules.readBound` — a bound.
-/

namespace EnumTables.Source

open EnumTables.Token

/-! ## Plain paths -/

/-- Whether a segment of a plain path follows. -/
def atPlainSegment (tokens : List Token) : Bool :=
  atIdent tokens || atAnyWord ["super", "self", "Self", "crate"] tokens

/-- Whether what begins with a path may follow: an identifier, a word for a place, or `::`. -/
def atPathStart (tokens : List Token) : Bool :=
  atPlainSegment tokens || atMark "::" tokens

/-- A path without arguments. -/
def plainPath : Reader Path := do
  let rooted ← mark? "::"
  let (segments, dangling) ← repeated (fun (found, dangling) => do
    if ← peek atPlainSegment then
      let segment := PathSegment.mk (← anyIdent).text .none
      if ← mark? "::" then return .more (segment :: found, true)
      else return .done (segment :: found, false)
    else
      return .done (found, dangling)) (([] : List PathSegment), false)
  if segments.isEmpty then wanting ["path"]
  else if dangling then wanting ["path segment"]
  else return ⟨rooted, segments.reverse⟩

/-! ## Attributes -/

/-- What stands in the brackets of an attribute; all behind its path is free. -/
def attributeBody : Reader Unit :=
  inside .bracket do
    discard plainPath
    take (← ahead).length

/-- Attributes of what follows; whether there are any. -/
def attributes : Reader Bool := do
  let found ← peek (atMark "#")
  whileAt (atMark "#") do
    mark "#"
    attributeBody
  return found

/-- Attributes of what they stand in. -/
def innerAttributes : Reader Unit :=
  whileAt (fun tokens => atMark "#" tokens && atMark "!" (skip tokens)) do
    mark "#"
    mark "!"
    attributeBody

/-- What stands in braces: attributes of it, then `body`. -/
def braced {α : Type} (body : Reader α) : Reader α :=
  inside .brace do
    innerAttributes
    body

/-- Statements in braces. -/
def Rules.block (rules : Rules) : Reader Unit :=
  inside .brace rules.statements

/-- Statements in braces, behind attributes. -/
def Rules.body (rules : Rules) : Reader Unit :=
  braced rules.statements

/-- A block which may have a label. -/
def Rules.labelledBlock (rules : Rules) : Reader Unit := do
  if ← peek atLifetime then
    discard lifetime
    mark ":"
  rules.body

/-! ## Lifetimes -/

/-- `for<'a, 'b>`, if it follows. -/
def binder : Reader Unit := do
  if ← word? "for" then
    mark "<"
    discard <| separated (atMark ">") "," do
      discard attributes
      discard lifetime
      if ← mark? ":" then
        chained (fun tokens => atMark "," tokens || atMark ">" tokens) "+" (discard lifetime)
    mark ">"

/-! ## Arguments -/

/-- `-> T`, if it follows; gives the type. -/
def Rules.result (rules : Rules) (plus : Bool) : Reader (Option Ty) := do
  if ← mark? "->" then some <$> rules.type plus else return none

/-- Types in parentheses and what is returned for them; whether more of a path may follow. -/
def Rules.parenArguments (rules : Rules) : Reader Bool := do
  discard <| inside .paren (listed rules.anyType)
  match ← rules.result false with
  | none | some (.paren _) => return true
  | _ => return false

/-- Whether arguments in parentheses follow a path which has none yet. -/
def atParenArguments (path : Path) (tokens : List Token) : Bool :=
  path.segments.getLast?.any (·.arguments.isEmpty) &&
    (atGroup .paren tokens || behindColons (atGroup .paren) tokens)

/-- A value as an argument of a type. -/
def Rules.constArgument (rules : Rules) : Reader Unit := do
  let tokens ← ahead
  if atLiteral tokens then literal
  else if atIdent tokens then discard ident
  else if atGroup .brace tokens then rules.labelledBlock
  else wanting []

/-- Bounds on a named argument. -/
def Rules.argumentBounds (rules : Rules) : Reader Unit :=
  chained (fun tokens => atMark "," tokens || atMark ">" tokens) "+" rules.bound

/-- Whether a type is one name with arguments in angle brackets. -/
def Ty.isGenericName : Ty → Bool
  | path ⟨false, [⟨_, .angle _ _⟩]⟩ => true
  | _ => false

/-- An argument in angle brackets: a lifetime, a type, a value, or a name with one of them. -/
def Rules.argument (rules : Rules) : Reader Unit := do
  let tokens ← ahead
  let behind := skip tokens
  if atLifetime tokens && !atMark "+" behind then discard lifetime
  else if atIdent tokens && atMark "=" behind then
    discard ident
    mark "="
    let tokens ← ahead
    if atLiteral tokens then literal
    else if atGroup .brace tokens then rules.labelledBlock
    else discard rules.anyType
  else if atIdent tokens && atMarkOnly ":" ["::"] behind then
    discard ident
    mark ":"
    rules.argumentBounds
  else if atLiteral tokens || atGroup .brace tokens then rules.constArgument
  else
    let type ← rules.anyType
    if type.isGenericName then
      if ← mark? "=" then discard rules.anyType
      else if ← mark? ":" then rules.argumentBounds

/-! ## Paths with arguments -/

/-- A segment with its arguments. -/
def Rules.segment (rules : Rules) (inExpr : Bool) : Reader PathSegment := do
  if ← peek (atAnyWord ["super", "self", "crate"]) then
    return ⟨(← anyIdent).text, .none⟩
  else
    let name ← identOr ["Self"]
    let tokens ← ahead
    if (!inExpr && atMarkOnly "<" ["<="] tokens) || behindColons (atMark "<") tokens then
      let (arguments, written) ← taking do
        discard <| mark? "::"
        mark "<"
        let arguments ← separated (atMark ">") "," rules.argument
        mark ">"
        return arguments
      return ⟨name.text, .angle arguments.length written⟩
    else
      return ⟨name.text, .none⟩

/-- More segments, each behind `::`, up to one which begins with a parenthesis. -/
def Rules.moreSegments (rules : Rules) (inExpr : Bool) : Reader (List PathSegment) := do
  let found ← repeated (fun found => do
    if ← peek (fun tokens => atMark "::" tokens && !behindColons (atGroup .paren) tokens) then
      mark "::"
      return .more ((← rules.segment inExpr) :: found)
    else
      return .done found) []
  return found.reverse

/-- A path with arguments. -/
def Rules.readPath (rules : Rules) (inExpr : Bool) : Reader Path := do
  let rooted ← mark? "::"
  let first ← rules.segment inExpr
  let more ← rules.moreSegments inExpr
  return ⟨rooted, first :: more⟩

/-- A path which may go through `<T as Trait>::`; whether it does. -/
def Rules.qualifiedPath (rules : Rules) (inExpr : Bool) : Reader (Bool × Path) := do
  if ← mark? "<" then
    discard rules.anyType
    if ← word? "as" then discard (rules.path false)
    mark ">"
    mark "::"
    let found ← repeated (fun found => do
      let found := (← rules.segment inExpr) :: found
      if ← mark? "::" then return .more found else return .done found) []
    return (true, ⟨false, found.reverse⟩)
  else
    return (false, ← rules.path inExpr)

/-- A path with other arguments at its last segment. -/
def Path.withLast (path : Path) (arguments : PathArguments) : Path :=
  match path.segments.getLast? with
  | some last => { path with segments := path.segments.dropLast ++ [{ last with arguments }] }
  | none => path

/-- A path as a type, which may have arguments in parentheses. -/
def Rules.typePath (rules : Rules) : Reader (Bool × Path) := do
  let (qualified, found) ← rules.qualifiedPath false
  let found ← repeated (fun found => do
    if ← peek (atParenArguments found) then
      let (more, written) ← taking do
        discard <| mark? "::"
        rules.parenArguments
      let found := found.withLast (.paren written)
      if more then
        return .more { found with segments := found.segments ++ (← rules.moreSegments false) }
      else
        return .more found
    else
      return .done found) found
  return (qualified, found)

/-! ## Bounds -/

/-- What stands in a bound besides parentheses around it: a trait with what modifies it. -/
def Rules.traitBound (rules : Rules) : Reader Unit := do
  if ← peek (fun tokens => atMark "~" tokens && atWord "const" (skip tokens)) then take 2
  discard <| mark? "?"
  binder
  let found ← rules.path false
  if ← peek (atParenArguments found) then
    discard <| mark? "::"
    discard rules.parenArguments

/-- A lifetime, or a trait in parentheses or not. -/
def Rules.readBound (rules : Rules) : Reader Unit := do
  if ← peek atLifetime then discard lifetime
  else if ← peek (atGroup .paren) then inside .paren rules.traitBound
  else rules.traitBound

end EnumTables.Source
