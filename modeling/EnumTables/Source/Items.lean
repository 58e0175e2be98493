import EnumTables.Source.Statements

/-!
# Items

* `visibility` — who may use an item.
* `Rules.generics`, `Rules.whereClause` — parameters and conditions.
* `Rules.signature` — a function up to its body.
* `Rules.structItem`, `Rules.constItem`, `Rules.implItem` — the items which groups of constants are made
  of.
* `Rules.readItem` — any item.
-/

namespace EnumTables.Source

open EnumTables.Token

/-! ## Visibility -/

/-- Who may use what follows.  Parentheses behind `pub` which hold neither one place nor a path behind
`in` belong to what follows. -/
def visibility : Reader Visibility := do
  let tokens ← ahead
  if atWord "pub" tokens then
    word "pub"
    match ← ahead with
    | .group .paren inner _ :: _ =>
      if atAnyWord ["crate", "self", "super"] inner && inner.length = 1 then
        return .restricted false (.ofName (← inside .paren anyIdent).text)
      else if atWord "in" inner then
        inside .paren do
          word "in"
          return .restricted true (← plainPath)
      else
        return .everywhere
    | _ => return .everywhere
  else if atWord "crate" tokens && !atMark "::" (skip tokens) then
    word "crate"
    return .crate
  else
    return .inherited

/-! ## Parameters and conditions -/

/-- A parameter for a type, with its bounds and what it stands for if it is left out. -/
def Rules.typeParameter (rules : Rules) : Reader Unit := do
  discard ident
  if ← mark? ":" then
    chained (fun tokens => [",", ">", "="].any (atMark · tokens)) "+" rules.bound
  if ← mark? "=" then discard rules.anyType

/-- A parameter for a value. -/
def Rules.constParameter (rules : Rules) : Reader Unit := do
  word "const"
  discard ident
  mark ":"
  discard rules.anyType
  if ← mark? "=" then rules.constArgument

/-- A parameter for a lifetime. -/
def lifetimeParameter : Reader Unit := do
  discard lifetime
  if ← mark? ":" then
    chained (fun tokens => atMark "," tokens || atMark ">" tokens) "+" (discard lifetime)

/-- A parameter in angle brackets. -/
def Rules.parameter (rules : Rules) : Reader Unit := do
  discard attributes
  let tokens ← ahead
  if atLifetime tokens then lifetimeParameter
  else if atIdent tokens then rules.typeParameter
  else if atWord "const" tokens then rules.constParameter
  else if atWord "_" tokens then word "_"
  else wanting ["lifetime", "identifier", ticked "const"]

/-- Parameters in angle brackets, if they follow; their span, unless there are none in the brackets. -/
def Rules.generics (rules : Rules) : Reader (Option Span) := do
  if ← peek (atMark "<") then
    let (parameters, span) ← spanned do
      mark "<"
      let parameters ← separated (atMark ">") "," rules.parameter
      mark ">"
      return parameters
    return if parameters.isEmpty then none else some span
  else
    return none

/-- Whether conditions end here. -/
def atWhereEnd (tokens : List Token) : Bool :=
  tokens.isEmpty || atGroup .brace tokens || [",", ";", "="].any (atMark · tokens) || atColon tokens

/-- A condition on a lifetime or on a type. -/
def Rules.condition (rules : Rules) : Reader Unit := do
  if ← peek (fun tokens => atLifetime tokens && atMark ":" (skip tokens)) then
    discard lifetime
    mark ":"
    chained (fun tokens => atWhereEnd tokens || atMark ":" tokens) "+" (discard lifetime)
  else
    binder
    discard rules.anyType
    mark ":"
    chained atWhereEnd "+" rules.bound

/-- Conditions behind `where`, if it follows; whether it does. -/
def Rules.whereClause (rules : Rules) : Reader Bool := do
  if ← word? "where" then
    chained atWhereEnd "," rules.condition
    return true
  else
    return false

/-! ## Functions -/

/-- Whether a function follows, with what may stand before `fn`. -/
def atSignature (tokens : List Token) : Bool :=
  let past (text : String) (tokens : List Token) := if atWord text tokens then skip tokens else tokens
  let tokens := past "unsafe" (past "async" (past "const" tokens))
  if atWord "extern" tokens then
    let behind := skip tokens
    atWord "fn" (if atString behind then skip behind else behind)
  else
    atWord "fn" tokens

/-- The object of a method; the span of its name. -/
def receiver : Reader Span := do
  if ← mark? "&" then lifetime?
  discard <| word? "mut"
  let ((), span) ← spanned (word "self")
  if ← peek (atMark ":") then wanting []
  return span

/-- A parameter of a function; the span of its name if it is the object of a method. -/
def Rules.functionParameter (rules : Rules) : Reader (Option Span) := do
  discard attributes
  match ← attempt receiver with
  | some span => return some span
  | none =>
    if ← peek (fun tokens => atIdent tokens && atMark "<" (skip tokens)) then discard rules.anyType
    else
      rules.alternatives
      mark ":"
      unless ← mark? "..." do discard rules.anyType
    return none

/-- The parameters of a function.  Only the first can be the object. -/
def Rules.functionParameters (rules : Rules) : Reader Unit :=
  inside .paren do
    discard <| repeated (fun (count, object) => do
      if ← ended then return .done (count, object)
      else
        discard attributes
        let object ←
          if ← mark? "..." then pure object
          else match ← rules.functionParameter with
            | none => pure object
            | some span =>
              if object then fail (.notice "unexpected second method receiver") span
              else if count ≠ 0 then fail (.notice "unexpected method receiver") span
              else pure true
        unless ← ended do mark ","
        return .more (count + 1, object)) (0, false)

/-- A function up to its body. -/
def Rules.signature (rules : Rules) : Reader Unit := do
  discard <| word? "const"
  discard <| word? "async"
  discard <| word? "unsafe"
  convention?
  word "fn"
  discard ident
  discard rules.generics
  rules.functionParameters
  discard <| rules.result true
  discard rules.whereClause

/-! ## Structs, enums and unions -/

/-- A field with a name. -/
def Rules.namedField (rules : Rules) : Reader Unit := do
  discard attributes
  discard visibility
  discard <| identOr ["_"]
  mark ":"
  discard rules.anyType

def Rules.namedFields (rules : Rules) : Reader Unit :=
  discard <| inside .brace (listed rules.namedField)

/-- A field without a name. -/
def Rules.tupleField (rules : Rules) : Reader Ty := do
  discard attributes
  discard visibility
  rules.anyType

def Rules.tupleFields (rules : Rules) : Reader (List Ty) :=
  inside .paren (listed rules.tupleField)

/-- The fields of a struct, with conditions before or behind them, and the end of it. -/
def Rules.structFields (rules : Rules) : Reader Fields := do
  let conditions ← rules.whereClause
  let first := if conditions then [] else [ticked "where", "parentheses"]
  let tokens ← ahead
  if !conditions && atGroup .paren tokens then
    let types ← rules.tupleFields
    let conditions ← rules.whereClause
    if ← mark? ";" then return .tuple types
    else wanting ((if conditions then [] else [ticked "where"]) ++ [ticked ";"])
  else if atGroup .brace tokens then
    rules.namedFields
    return .named
  else if atMark ";" tokens then
    mark ";"
    return .unit
  else wanting (first ++ ["curly braces", ticked ";"])

/-- A struct, behind its visibility, up to its span. -/
def Rules.structItem (rules : Rules) (visibility : Visibility) : Reader (Span → Item) := do
  word "struct"
  let name ← ident
  let generics ← rules.generics
  let fields ← rules.structFields
  return fun span => .type { visibility, name, generics, fields, span }

/-- A variant of an enum. -/
def Rules.variant (rules : Rules) : Reader Unit := do
  discard attributes
  discard visibility
  discard ident
  let tokens ← ahead
  if atGroup .brace tokens then rules.namedFields
  else if atGroup .paren tokens then discard rules.tupleFields
  if ← mark? "=" then discard rules.expr

/-- An enum, behind its visibility. -/
def Rules.enumItem (rules : Rules) : Reader Unit := do
  word "enum"
  discard ident
  discard rules.generics
  discard rules.whereClause
  discard <| inside .brace (listed rules.variant)

/-- A union, behind its visibility. -/
def Rules.unionItem (rules : Rules) : Reader Unit := do
  word "union"
  discard ident
  discard rules.generics
  discard rules.whereClause
  rules.namedFields

/-! ## Constants and types -/

/-- The name of a constant, which may be `_`. -/
def constName : Reader Identifier := do
  if ← peek (fun tokens => atIdent tokens || atWord "_" tokens) then anyIdent
  else wanting ["identifier", ticked "_"]

/-- A constant, behind its visibility; nothing if it has no value. -/
def Rules.constItem (rules : Rules) : Reader (Option ConstItem) := do
  word "const"
  let name ← constName
  mark ":"
  let type ← rules.anyType
  if ← mark? ";" then return none
  else
    mark "="
    let value ← rules.expr
    mark ";"
    return some ⟨name, type, value⟩

/-- A constant of an `impl` block.  Where its value should be, the end is expected. -/
def Rules.associatedConst (rules : Rules) : Reader (Option ConstItem) := do
  word "const"
  let name ← constName
  mark ":"
  let type ← rules.anyType
  if ← mark? "=" then
    let value ← rules.expr
    mark ";"
    return some ⟨name, type, value⟩
  else
    mark ";"
    return none

/-- A static, behind its visibility.  It may lack its type or its value. -/
def Rules.staticItem (rules : Rules) : Reader Unit := do
  word "static"
  discard <| word? "mut"
  discard ident
  if ← mark? "=" then discard rules.expr
  else
    mark ":"
    discard rules.anyType
    unless ← peek (atMark ";") do
      mark "="
      discard rules.expr
  mark ";"

/-- A name for a type, behind its visibility; `late` conditions may stand behind the type. -/
def Rules.typeAlias (rules : Rules) (late : Bool) : Reader Unit := do
  word "type"
  discard ident
  discard rules.generics
  if ← mark? ":" then
    discard <| separated (fun tokens => atWord "where" tokens || atMark "=" tokens || atMark ";" tokens)
      "+" rules.bound
  let conditions ← rules.whereClause
  if ← mark? "=" then discard rules.anyType
  if late && !conditions then discard rules.whereClause
  mark ";"

/-! ## Macros -/

/-- A macro as an item: a path, `!`, maybe a name, and brackets. -/
def macroItem (named : Bool) : Reader Unit := do
  discard plainPath
  mark "!"
  if named then ident?
  unless ← anyGroup do mark ";"

/-- What a macro at the place of an item may begin with. -/
def macroStarts : List String :=
  ["identifier", ticked "self", ticked "super", ticked "crate", ticked "::"]

def atMacro (tokens : List Token) : Bool :=
  atIdent tokens || atAnyWord ["self", "super", "crate"] tokens || atMark "::" tokens

/-- A macro with rules in braces, behind its visibility. -/
def macroDefinition : Reader Unit := do
  word "macro"
  discard ident
  let parameters ← peek (atGroup .paren)
  if parameters then take 1
  if ← peek (atGroup .brace) then take 1
  else wanting (if parameters then ["curly braces"] else ["parentheses", "curly braces"])

/-! ## Members of traits and of foreign blocks -/

/-- A constant of a trait, with or without a value. -/
def Rules.traitConst (rules : Rules) : Reader Unit := do
  word "const"
  discard constName
  mark ":"
  discard rules.anyType
  if ← mark? "=" then discard rules.expr
  mark ";"

/-- A method of a trait, with or without a body. -/
def Rules.traitMethod (rules : Rules) : Reader Unit := do
  rules.signature
  let tokens ← ahead
  if atGroup .brace tokens then rules.body
  else if atMark ";" tokens then mark ";"
  else wanting ["curly braces", ticked ";"]

def Rules.traitMember (rules : Rules) : Reader Unit := do
  discard attributes
  discard visibility
  discard <| word? "default"
  let tokens ← ahead
  if atSignature tokens then rules.traitMethod
  else if atWord "const" tokens then
    let second := skip tokens
    if atIdent second || atWord "_" second then rules.traitConst
    else if atAnyWord ["async", "unsafe", "extern", "fn"] second then rules.traitMethod
    else
      word "const"
      wanting ["identifier", ticked "_", ticked "async", ticked "unsafe", ticked "extern", ticked "fn"]
  else if atWord "type" tokens then rules.typeAlias true
  else if atMacro tokens then macroItem false
  else wanting ([ticked "fn", ticked "const", ticked "type"] ++ macroStarts)

def Rules.foreignMember (rules : Rules) : Reader Unit := do
  discard attributes
  let visible ← visibility
  let tokens ← ahead
  if atSignature tokens then
    rules.signature
    if ← peek (atGroup .brace) then rules.body else mark ";"
  else if atWord "static" tokens then
    word "static"
    discard <| word? "mut"
    discard ident
    mark ":"
    discard rules.anyType
    if ← mark? "=" then discard rules.expr
    mark ";"
  else if atWord "type" tokens then rules.typeAlias false
  else if visible.isInherited && atMacro tokens then macroItem false
  else wanting ([ticked "fn", ticked "static", ticked "type"] ++
    if visible.isInherited then macroStarts else [])

/-- A block of foreign items. -/
def Rules.foreignBlock (rules : Rules) : Reader Unit := do
  convention
  discard <| braced (untilEnd rules.foreignMember)

/-! ## Traits -/

/-- The bounds of a trait and its members. -/
def Rules.traitRest (rules : Rules) : Reader Unit := do
  if ← mark? ":" then
    discard <| separated (fun tokens => atWord "where" tokens || atGroup .brace tokens) "+" rules.bound
  discard rules.whereClause
  discard <| braced (untilEnd rules.traitMember)

/-- A trait which is `unsafe` or `auto`. -/
def Rules.markedTrait (rules : Rules) : Reader Unit := do
  discard <| word? "unsafe"
  discard <| word? "auto"
  word "trait"
  discard ident
  discard rules.generics
  rules.traitRest

/-- A trait, or a name for bounds. -/
def Rules.traitItem (rules : Rules) : Reader Unit := do
  word "trait"
  discard ident
  discard rules.generics
  let tokens ← ahead
  if atGroup .brace tokens || atMark ":" tokens || atWord "where" tokens then rules.traitRest
  else if atMark "=" tokens then
    mark "="
    discard <| separated (fun tokens => atWord "where" tokens || atMark ";" tokens) "+" rules.bound
    discard rules.whereClause
    mark ";"
  else wanting ["curly braces", ticked ":", ticked "where", ticked "="]

/-! ## Blocks of associated items -/

/-- A member of an `impl` block; the constant it is, if it has a value. -/
def Rules.implMember (rules : Rules) : Reader (Option ConstItem) := do
  discard attributes
  let visible ← visibility
  let specialized ← peek (fun tokens => atWord "default" tokens && !atMark "!" (skip tokens))
  if specialized then word "default"
  let tokens ← ahead
  let plain := visible.isInherited && !specialized
  if atSignature tokens then
    rules.signature
    unless ← mark? ";" do rules.body
    return none
  else if atWord "const" tokens then rules.associatedConst
  else if atWord "type" tokens then
    rules.typeAlias true
    return none
  else if plain && atMacro tokens then
    macroItem false
    return none
  else wanting ((if specialized then [] else [ticked "default"]) ++
    [ticked "fn", ticked "const", ticked "type"] ++ if plain then macroStarts else [])

/-- Whether parameters follow `impl`, and not a type which begins with `<`. -/
def atImplParameters (tokens : List Token) : Bool :=
  let second := skip tokens
  let third := skip second
  atMark "<" tokens &&
    (atMark ">" second || atMark "#" second || atWord "const" second ||
      ((atIdent second || atLifetime second) && [":", ",", ">", "="].any (atMark · third)))

/-- An `impl` block, behind its visibility.  It is read and left out if it has a visibility, is `const`,
or is for something which is not a trait. -/
def Rules.implItem (rules : Rules) (visible : Visibility) : Reader Item := do
  discard <| word? "default"
  discard <| word? "unsafe"
  word "impl"
  if ← peek atImplParameters then discard rules.generics
  let isConst ← peek fun tokens =>
    atWord "const" tokens || (atMark "?" tokens && atWord "const" (skip tokens))
  if isConst then
    discard <| mark? "?"
    word "const"
  let negative ← peek fun tokens => atMark "!" tokens && !atGroup .brace (skip tokens)
  if negative then mark "!"
  let first ← rules.anyType
  let ofTrait ← word? "for"
  let subject ← if ofTrait then rules.anyType else pure (if negative then .other else first)
  let traitNamed := match first with
    | .path _ => true
    | _ => false
  discard rules.whereClause
  let members ← braced (untilEnd rules.implMember)
  if !visible.isInherited || isConst || (ofTrait && !traitNamed) then return .other
  else return .impl ⟨ofTrait, subject, members.filterMap id⟩

/-! ## Imports and modules -/

/-- What is imported, behind `use` and the paths before it; `rooted` paths may begin with `::`. -/
def Rules.readImports (rules : Rules) (rooted : Bool) : Reader Unit := do
  let tokens ← ahead
  if atIdent tokens || atAnyWord ["self", "super", "crate"] tokens then
    discard anyIdent
    if ← mark? "::" then rules.imports false
    else if ← word? "as" then
      let tokens ← ahead
      if atIdent tokens || atWord "_" tokens then discard anyIdent
      else refuse "expected identifier or underscore"
  else if atMark "*" tokens then mark "*"
  else if atGroup .brace tokens then
    discard <| inside .brace <| listed do
      let fromRoot ← if rooted then mark? "::" else pure false
      rules.imports (rooted && !fromRoot)
  else wanting ["identifier", ticked "self", ticked "super", ticked "crate", ticked "*", "curly braces"]

/-- An import, behind its visibility. -/
def Rules.useItem (rules : Rules) : Reader Unit := do
  word "use"
  let fromRoot ← mark? "::"
  rules.imports (!fromRoot)
  mark ";"

/-- An import of a whole crate, behind its visibility and `extern`. -/
def externalCrate : Reader Unit := do
  word "crate"
  discard <| identOr ["self"]
  if ← word? "as" then discard <| identOr ["_"]
  mark ";"

/-- A module, behind its visibility. -/
def Rules.moduleItem (rules : Rules) : Reader Unit := do
  word "mod"
  discard ident
  let tokens ← ahead
  if atMark ";" tokens then mark ";"
  else if atGroup .brace tokens then discard <| braced (untilEnd rules.item)
  else wanting [ticked ";", "curly braces"]

/-! ## All items -/

/-- An item which begins with `extern`; `start` is where its visibility stands. -/
def Rules.externItem (rules : Rules) (start : Cursor) : Reader Unit := do
  word "extern"
  let tokens ← ahead
  if atWord "crate" tokens then externalCrate
  else if atGroup .brace tokens || (atString tokens && atGroup .brace (skip tokens)) then
    set start
    rules.foreignBlock
  else if atString tokens then
    stringLiteral
    wanting ["curly braces"]
  else wanting [ticked "crate", "curly braces", "string literal"]

/-- An item which begins with `unsafe`, behind its visibility. -/
def Rules.unsafeItem (rules : Rules) (visible : Visibility) : Reader Item := do
  let second := skip (← ahead)
  if atWord "trait" second || (atWord "auto" second && atWord "trait" (skip second)) then
    rules.markedTrait
    return .other
  else if atWord "impl" second then rules.implItem visible
  else
    word "unsafe"
    if atWord "extern" second then rules.foreignBlock
    else if atWord "mod" second then rules.moduleItem
    else wanting [ticked "trait", ticked "auto", ticked "impl", ticked "extern", ticked "mod"]
    return .other

/-- What an item may begin with. -/
def itemStarts : List String :=
  ["fn", "extern", "use", "static", "const", "unsafe", "mod", "type", "struct", "enum", "union", "trait",
    "auto", "impl", "default", "macro"].map ticked

/-- An item behind its attributes, up to its span. -/
def Rules.itemBody (rules : Rules) : Reader (Span → Item) := do
  let start ← get
  let visible ← visibility
  let tokens ← ahead
  let second := skip tokens
  let other (body : Reader Unit) : Reader (Span → Item) := do
    body
    return fun _ => .other
  if atSignature tokens then
    other do
      rules.signature
      unless ← mark? ";" do rules.body
  else if atWord "extern" tokens then other (rules.externItem start)
  else if atWord "use" tokens then other rules.useItem
  else if atWord "static" tokens then other rules.staticItem
  else if atWord "const" tokens then
    let item ← rules.constItem
    return fun _ => (item.map .const).getD .other
  else if atWord "unsafe" tokens then
    let item ← rules.unsafeItem visible
    return fun _ => item
  else if atWord "mod" tokens then other rules.moduleItem
  else if atWord "type" tokens then other (rules.typeAlias false)
  else if atWord "struct" tokens then rules.structItem visible
  else if atWord "enum" tokens then other rules.enumItem
  else if atWord "union" tokens && atIdent second then other rules.unionItem
  else if atWord "trait" tokens then other rules.traitItem
  else if atWord "auto" tokens && atWord "trait" second then other rules.markedTrait
  else if atWord "impl" tokens || (atWord "default" tokens && !atMark "!" second) then
    let item ← rules.implItem visible
    return fun _ => item
  else if atWord "macro" tokens then other macroDefinition
  else if visible.isInherited && atMacro tokens then other (macroItem true)
  else wanting (itemStarts ++ if visible.isInherited then macroStarts else [])

/-- **An item.** -/
def Rules.readItem (rules : Rules) : Reader Item := do
  let (shape, span) ← spanned do
    discard attributes
    rules.itemBody
  return shape span

end EnumTables.Source
