import EnumTables.Source.Paths

/-!
# Types

* `Rules.traitObject` — bounds with `+` between them, of which one has to be a trait.
* `Rules.functionType` — `fn(A, B) -> C`.
* `Rules.parenType` — what stands in parentheses: nothing, one type, several, or a bound.
* `Rules.readType` — a type.
-/

namespace EnumTables.Source

open EnumTables.Token

/-! ## Bounds as types -/

/-- Whether another bound may follow a `+`. -/
def atBound (tokens : List Token) : Bool :=
  atAnyIdent tokens || atMark "::" tokens || atMark "?" tokens || atLifetime tokens ||
    atGroup .paren tokens

/-- Reads one bound, and tells the span of its name if it is a lifetime. -/
def Rules.boundOrLifetime (rules : Rules) : Reader (Option Span) := do
  if ← peek atLifetime then some <$> lifetime
  else
    rules.bound
    return none

/-- **Bounds of an object.**  They are refused with `notice`, from `first` to the last lifetime, if all of
them are lifetimes. -/
def Rules.traitObject (rules : Rules) (first : Span) (notice : String) (plus : Bool) : Reader Unit := do
  let found ← repeated (fun found => do
    let found := (← rules.boundOrLifetime) :: found
    if plus then
      if ← mark? "+" then
        if ← peek (fun tokens => atBound tokens || atMark "~" tokens) then return .more found
    return .done found) []
  match found with
  | some last :: _ =>
    if found.all Option.isSome then fail (.notice notice) (first.join last)
  | _ => return ()

/-- More bounds, each behind a `+`. -/
def Rules.moreBounds (rules : Rules) : Reader Unit :=
  whileAt (atMark "+") do
    mark "+"
    rules.bound

/-! ## Functions -/

/-- `extern` and, if it is given, the name of a calling convention. -/
def convention : Reader Unit := do
  word "extern"
  if ← peek atString then stringLiteral

def convention? : Reader Unit := do
  if ← peek (atWord "extern") then convention

/-- A parameter of a function type, with or without a name. -/
def Rules.functionTypeParameter (rules : Rules) : Reader Unit := do
  discard attributes
  let tokens ← ahead
  let behind := skip tokens
  if (atIdent tokens || atAnyWord ["_", "self"] tokens) && atMarkOnly ":" ["::"] behind then
    discard anyIdent
    mark ":"
    unless ← mark? "..." do discard rules.anyType
  else if atWord "mut" tokens && atWord "self" behind then
    word "mut"
    word "self"
    if ← mark? ":" then
      unless ← mark? "..." do discard rules.anyType
  else discard rules.anyType

/-- A function type. -/
def Rules.functionType (rules : Rules) : Reader Unit := do
  discard <| word? "unsafe"
  convention?
  word "fn"
  inside .paren <| repeated (fun _ => do
    if ← ended then return .done ()
    else
      discard attributes
      if ← mark? "..." then return .done ()
      else
        rules.functionTypeParameter
        if ← ended then return .done ()
        else
          mark ","
          return .more ()) ()
  discard <| rules.result false

/-! ## Parentheses -/

/-- Whether a type may be the first bound of an object when it stands in parentheses. -/
def Ty.isBoundLike : Ty → Bool
  | path _ | bound => true
  | _ => false

/-- What stands in the parentheses of a type: a type if it is a single one, and whether bounds may be
added behind the parentheses. -/
def Rules.parenTypeBody (rules : Rules) (plus : Bool) : Reader (Option Ty × Bool) := do
  let tokens ← ahead
  if tokens.isEmpty then return (none, false)
  else if atLifetime tokens then
    rules.traitObject (← here) "at least one trait is required for an object type" true
    return (some (.paren .other), false)
  else if atMark "?" tokens then
    rules.traitBound
    return (some .bound, true)
  else
    let first ← rules.anyType
    if ← mark? "," then
      discard <| listed rules.anyType
      return (none, false)
    else
      return (some (.paren first), plus && first.isBoundLike)

/-- A type in parentheses. -/
def Rules.parenType (rules : Rules) (plus : Bool) : Reader Ty := do
  let (type, open_) ← inside .paren (rules.parenTypeBody plus)
  let type := type.getD .other
  if open_ && (← peek (atMark "+")) then
    rules.moreBounds
    return .other
  else
    return type

/-! ## All types -/

/-- What a type may begin with. -/
def typeStarts : List String :=
  ["parentheses", ticked "fn", ticked "unsafe", ticked "extern", "identifier", ticked "::", ticked "<",
    "square brackets", ticked "*", ticked "&", ticked "!", ticked "impl", ticked "_", "lifetime"]

/-- What a type may go on with behind `for<..>`. -/
def boundTypeStarts : List String :=
  ["identifier", ticked "fn", ticked "unsafe", ticked "extern", ticked "super", ticked "self",
    ticked "Self", ticked "crate"]

/-- A type which begins with a path: the path, a macro, or an object. -/
def Rules.namedType (rules : Rules) (bound plus : Bool) : Reader Ty := do
  let first ← here
  if ← word? "dyn" then
    discard <| mark? "*"
    rules.traitObject first "at least one trait is required for an object type" plus
    return .other
  else
    let (qualified, found) ← rules.typePath
    let tokens ← ahead
    if qualified then return .other
    else if atMarkOnly "!" ["!="] tokens && found.segments.all (·.arguments.isNone) then
      mark "!"
      discard anyGroup
      return .other
    else if plus && atMark "+" tokens then
      repeated (fun _ => do
        if ← mark? "+" then
          if ← peek atBound then
            rules.bound
            return .more ()
        return .done ()) ()
      return .other
    else if bound then return .bound
    else return .path found

/-- `*const T` or `*mut T`. -/
def Rules.pointerType (rules : Rules) : Reader Unit := do
  mark "*"
  unless ← word? "const" do
    unless ← word? "mut" do wanting [ticked "const", ticked "mut"]
  discard rules.singleType

/-- `&'a mut T`. -/
def Rules.referenceType (rules : Rules) : Reader Unit := do
  mark "&"
  lifetime?
  discard <| word? "mut"
  discard rules.singleType

/-- `[T]` or `[T; n]`. -/
def Rules.arrayType (rules : Rules) : Reader Unit :=
  inside .bracket do
    discard rules.anyType
    if ← mark? ";" then discard rules.expr

/-- **A type.** -/
def Rules.readType (rules : Rules) (plus : Bool) : Reader Ty := do
  let bound ← peek (atWord "for")
  if bound then
    binder
    let tokens ← ahead
    if atWord "dyn" tokens then wanting []
    else if !(atIdent tokens ||
        atAnyWord ["fn", "unsafe", "extern", "super", "self", "Self", "crate"] tokens) then
      wanting boundTypeStarts
  let tokens ← ahead
  if atGroup .paren tokens then rules.parenType plus
  else if atAnyWord ["fn", "unsafe", "extern"] tokens then
    rules.functionType
    return .other
  else if atPathStart tokens || atMark "<" tokens then rules.namedType bound plus
  else if atGroup .bracket tokens then
    rules.arrayType
    return .other
  else if atMark "*" tokens then
    rules.pointerType
    return .other
  else if atMark "&" tokens then
    rules.referenceType
    return .other
  else if atMark "!" tokens then
    mark "!"
    return .other
  else if atWord "impl" tokens then
    let first ← here
    word "impl"
    rules.traitObject first "at least one trait must be specified" plus
    return .other
  else if atWord "_" tokens then
    word "_"
    return .other
  else if atLifetime tokens then
    rules.traitObject (← here) "at least one trait is required for an object type" true
    return .other
  else wanting (if bound then typeStarts else ticked "for" :: typeStarts)

end EnumTables.Source
