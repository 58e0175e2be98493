import EnumTables.Source.Patterns

/-!
# Expressions

An expression is an operand and operators behind it; an operand is an atom with what stands before and
behind it.

* `operator?` and `precedenceAt` — operators between two operands.
* `Rules.ifExpr`, `Rules.matchExpr`, `Rules.closure`, `Rules.structLiteral` and others — atoms.
* `Rules.readAtom` — any atom.
* `Rules.trailers` — calls, fields, indexes and `?` behind an operand.
* `Rules.readOperand`, `Rules.readOperators` — the two parts of an expression.
* `Rules.early` — an expression at the beginning of a statement or of the arm of a `match`.
-/

namespace EnumTables.Source

open EnumTables.Token

/-! ## Operators -/

/-- An operator between two operands. -/
structure Operator where
  text : String
  precedence : Precedence
  op : BinaryOp

/-- All operators; one which begins with another stands before it. -/
def operators : List Operator :=
  [⟨"+=", .assign, .other⟩, ⟨"-=", .assign, .other⟩, ⟨"*=", .assign, .other⟩, ⟨"/=", .assign, .other⟩,
    ⟨"%=", .assign, .other⟩, ⟨"^=", .assign, .other⟩, ⟨"&=", .assign, .other⟩, ⟨"|=", .assign, .other⟩,
    ⟨"<<=", .assign, .other⟩, ⟨">>=", .assign, .other⟩, ⟨"&&", .and, .other⟩, ⟨"||", .or, .other⟩,
    ⟨"<<", .shift, .shl⟩, ⟨">>", .shift, .shr⟩, ⟨"==", .compare, .other⟩, ⟨"<=", .compare, .other⟩,
    ⟨"!=", .compare, .other⟩, ⟨">=", .compare, .other⟩, ⟨"+", .sum, .add⟩, ⟨"-", .sum, .sub⟩,
    ⟨"*", .product, .mul⟩, ⟨"/", .product, .div⟩, ⟨"%", .product, .rem⟩, ⟨"^", .bitXor, .bitXor⟩,
    ⟨"&", .bitAnd, .bitAnd⟩, ⟨"|", .bitOr, .bitOr⟩, ⟨"<", .compare, .other⟩, ⟨">", .compare, .other⟩]

def operator? (tokens : List Token) : Option Operator :=
  operators.find? (atMark ·.text tokens)

/-- Whether an assignment follows. -/
def atAssign : List Token → Bool :=
  atMarkOnly "=" ["==", "=>"]

/-- Whether the colon of a type follows. -/
def atColon : List Token → Bool :=
  atMarkOnly ":" ["::"]

/-- How tight what follows binds to the operand before it; `any` if it is no operator. -/
def precedenceAt (tokens : List Token) : Precedence :=
  match operator? tokens with
  | some operator => operator.precedence
  | none =>
    if atAssign tokens then .assign
    else if atMark ".." tokens then .range
    else if atWord "as" tokens || atColon tokens then .cast
    else .any

/-- The right operand of an operator: operators which follow belong to it while `goesOn` says so. -/
def Rules.rightOperand (rules : Rules) (literals : Bool) (goesOn : Precedence → Bool) :
    Reader Expr := do
  let first ← here
  let right ← rules.operand literals
  repeated (fun right => do
    let next := precedenceAt (← ahead)
    if goesOn next then return .more (← rules.operators first right literals next)
    else return .done right) right

/-- What may not follow a cast. -/
def castFollower (tokens : List Token) : Option String :=
  let second := skip tokens
  let third := skip second
  if atMarkOnly "." [".."] tokens then
    if atWord "await" second then some "`.await`"
    else if atIdent second && (atGroup .paren third || atMark "::" third) then some "a method call"
    else some "a field access"
  else if atMark "?" tokens then some "`?`"
  else if atGroup .bracket tokens then some "indexing"
  else if atGroup .paren tokens then some "a function call"
  else none

/-- The target of a cast. -/
def Rules.castTarget (rules : Rules) : Reader Ty := do
  let target ← rules.singleType
  match castFollower (← ahead) with
  | some follower => refuse ("casts cannot be followed by " ++ follower)
  | none => return target

/-- Whether nothing more of an expression follows where it may be left out. -/
def atValueEnd (literals : Bool) (tokens : List Token) : Bool :=
  tokens.isEmpty || atMark "," tokens || atMark ";" tokens || (!literals && atGroup .brace tokens)

/-- **Operators behind an operand** which begins at `first`, as far as they bind as tight as `base`.
Operators of one precedence group to the left, assignments to the right. -/
def Rules.readOperators (rules : Rules) (first : Span) (left : Expr) (literals : Bool)
    (base : Precedence) : Reader Expr :=
  repeated (fun left => do
    let tokens ← ahead
    let allowed (precedence : Precedence) := base.rank ≤ precedence.rank
    let whole : Reader Span := return first.join (← get).last
    match operator? tokens with
    | some ⟨text, precedence, op⟩ =>
      if allowed precedence then
        mark text
        let right ← rules.rightOperand literals fun next =>
          precedence.rank < next.rank || (precedence == .assign && next == .assign)
        let span ← whole
        return .more (if precedence = .assign then .other span else .binary op left right span)
      else
        return .done left
    | none =>
      if allowed .assign && atAssign tokens then
        mark "="
        discard <| rules.rightOperand literals (Precedence.rank .assign ≤ ·.rank)
        return .more (.other (← whole))
      else if allowed .range && atMark ".." tokens then
        let closed ← rangeMark
        let tokens ← ahead
        unless !closed && (atValueEnd literals tokens || atMarkOnly "." [".."] tokens) do
          discard <| rules.rightOperand literals (Precedence.rank .range < ·.rank)
        return .more (.range (← whole))
      else if allowed .cast && atWord "as" tokens then
        word "as"
        let target ← rules.castTarget
        return .more (.cast left target (← whole))
      else if allowed .cast && atColon tokens then
        mark ":"
        discard rules.castTarget
        return .more (.other (← whole))
      else
        return .done left) left

/-! ## Literals of several parts -/

/-- What stands in parentheses: nothing, one expression or several. -/
def Rules.parenExpr (rules : Rules) : Reader (Span → Expr) :=
  inside .paren do
    if ← ended then return .other
    else
      let first ← rules.expr
      if ← ended then return .paren first
      else
        mark ","
        discard <| listed rules.expr
        return .other

/-- What stands in square brackets: values, or one and how often it is repeated. -/
def Rules.arrayExpr (rules : Rules) : Reader Unit :=
  inside .bracket do
    unless ← ended do
      discard rules.expr
      let tokens ← ahead
      if atMark "," tokens then
        mark ","
        discard <| listed rules.expr
      else if atMark ";" tokens then
        mark ";"
        discard rules.expr
      else unless tokens.isEmpty do refuse "expected `,` or `;`"

/-- The fields of a struct literal, up to `..` if it is written, and what it is filled up from. -/
def Rules.structLiteral (rules : Rules) : Reader Unit :=
  inside .brace <| repeated (fun _ => do
    if ← ended then return .done ()
    else if ← mark? ".." then
      unless ← ended do discard rules.expr
      return .done ()
    else
      discard attributes
      let index ← fieldName
      if index.isSome || (← peek (atMark ":")) then
        mark ":"
        discard rules.expr
      if ← ended then return .done ()
      else
        mark ","
        return .more ()) ()

/-! ## Branches and loops -/

/-- `if`, with all that follows behind `else`. -/
def Rules.ifExpr (rules : Rules) : Reader Unit :=
  repeated (fun _ => do
    word "if"
    discard rules.exprBeforeBrace
    rules.block
    if ← word? "else" then
      let tokens ← ahead
      if atWord "if" tokens then return .more ()
      else if atGroup .brace tokens then
        rules.block
        return .done ()
      else wanting []
    else
      return .done ()) ()

def Rules.whileLoop (rules : Rules) : Reader Unit := do
  word "while"
  discard rules.exprBeforeBrace
  rules.body

def Rules.forLoop (rules : Rules) : Reader Unit := do
  word "for"
  rules.anyAlternatives
  word "in"
  discard rules.exprBeforeBrace
  rules.body

def Rules.plainLoop (rules : Rules) : Reader Unit := do
  word "loop"
  rules.body

/-- A loop or a block behind a label. -/
def Rules.labelled (rules : Rules) : Reader Unit := do
  discard lifetime
  mark ":"
  let tokens ← ahead
  if atWord "while" tokens then rules.whileLoop
  else if atWord "for" tokens then rules.forLoop
  else if atWord "loop" tokens then rules.plainLoop
  else if atGroup .brace tokens then rules.body
  else refuse "expected loop or block expression"

/-- `let` as a condition. -/
def Rules.letExpr (rules : Rules) : Reader Unit := do
  word "let"
  rules.anyAlternatives
  mark "="
  let first ← here
  let left ← rules.operand false
  discard <| rules.operators first left false .compare

/-- The arms of a `match`.  Only a block may go without the comma behind it. -/
def Rules.arms (rules : Rules) : Reader Unit :=
  discard <| untilEnd do
    discard attributes
    rules.anyAlternatives
    if ← word? "if" then discard rules.expr
    mark "=>"
    match ← rules.early with
    | .block _ => discard <| mark? ","
    | _ => unless ← ended do mark ","

/-! ## Closures -/

/-- A parameter of a closure, with or without a type. -/
def Rules.closureParameter (rules : Rules) : Reader Unit := do
  discard attributes
  rules.pattern
  if ← mark? ":" then discard rules.anyType

/-- A closure. -/
def Rules.closure (rules : Rules) (literals : Bool) : Reader Unit := do
  discard <| word? "static"
  discard <| word? "async"
  discard <| word? "move"
  mark "|"
  discard <| separated (atMark "|") "," rules.closureParameter
  mark "|"
  if ← mark? "->" then
    discard rules.anyType
    rules.block
  else
    discard <| rules.exprWith literals

/-- Whether `for<..>` follows, and not a loop. -/
def atBinder (tokens : List Token) : Bool :=
  let second := skip tokens
  let third := skip second
  atWord "for" tokens && atMark "<" second && (atLifetime third || atMark ">" third)

def atClosure (tokens : List Token) : Bool :=
  let second := skip tokens
  atMark "|" tokens || (atWord "async" tokens && (atMark "|" second || atWord "move" second)) ||
    atAnyWord ["static", "move"] tokens

/-! ## Atoms -/

/-- A path, a macro, or a struct literal if it is allowed. -/
def Rules.namedExpr (rules : Rules) (literals : Bool) : Reader (Span → Expr) := do
  let (qualified, found) ← rules.qualifiedPath true
  let tokens ← ahead
  if !qualified && atMarkOnly "!" ["!="] tokens && found.segments.all (·.arguments.isNone) then
    mark "!"
    discard anyGroup
    return .other
  else if literals && atGroup .brace tokens then
    rules.structLiteral
    return .other
  else if qualified then return .other
  else return .path found

/-- A literal. -/
def literalExpr : Reader (Span → Expr) := do
  let tokens ← ahead
  literal
  match tokens with
  | .literal text place :: _ =>
    match LiteralKind.ofText text with
    | .integer value => return .integer value place
    | _ => return .other
  | _ => return .other

/-- What ends a statement by itself; whether it was found. -/
def Rules.blockExpr? (rules : Rules) : Reader Bool := do
  let tokens ← ahead
  if atWord "if" tokens then rules.ifExpr
  else if atWord "while" tokens then rules.whileLoop
  else if atWord "for" tokens && !atBinder tokens then rules.forLoop
  else if atWord "loop" tokens then rules.plainLoop
  else if atWord "match" tokens then
    word "match"
    discard rules.exprBeforeBrace
    braced rules.arms
  else if atWord "try" tokens && atGroup .brace (skip tokens) then
    word "try"
    rules.block
  else if atWord "unsafe" tokens then
    word "unsafe"
    rules.body
  else if atGroup .brace tokens then rules.body
  else return false
  return true

/-- What leaves a block, with or without a value. -/
def Rules.leave (rules : Rules) (literals : Bool) : Reader Unit := do
  if ← word? "break" then
    lifetime?
    unless ← peek (atValueEnd literals) do discard <| rules.exprWith literals
  else if ← word? "continue" then lifetime?
  else if ← word? "return" then
    unless ← peek (atValueEnd true) do discard <| rules.exprWith literals
  else
    word "yield"
    unless ← peek (atValueEnd true) do discard rules.expr

/-- A range without a beginning. -/
def Rules.openRange (rules : Rules) (literals : Bool) : Reader Unit := do
  let closed ← rangeMark
  unless !closed && (← peek (atValueEnd literals)) do discard <| rules.exprWith literals

/-- **An atom**, up to its span. -/
def Rules.readAtom (rules : Rules) (literals : Bool) : Reader (Span → Expr) := do
  let tokens ← ahead
  let second := skip tokens
  if atLiteral tokens then literalExpr
  else if atWord "async" tokens &&
      (atGroup .brace second || (atWord "move" second && atGroup .brace (skip second))) then
    word "async"
    discard <| word? "move"
    rules.block
    return .block
  else if atWord "try" tokens && atGroup .brace second then
    word "try"
    rules.block
    return .block
  else if atClosure tokens then
    rules.closure literals
    return .other
  else if atBinder tokens then
    binder
    rules.closure literals
    return .other
  else if atPathStart tokens || atMark "<" tokens then rules.namedExpr literals
  else if atGroup .paren tokens then rules.parenExpr
  else if atAnyWord ["break", "continue", "return", "yield"] tokens then
    rules.leave literals
    return .other
  else if atGroup .bracket tokens then
    rules.arrayExpr
    return .other
  else if atWord "let" tokens then
    rules.letExpr
    return .other
  else if atWord "const" tokens then
    rules.constBlock
    return .other
  else if atMark ".." tokens then
    rules.openRange literals
    return .range
  else if atWord "_" tokens then
    word "_"
    return .other
  else if atLifetime tokens then
    rules.labelled
    return .block
  else if ← rules.blockExpr? then return .block
  else refuse "expected expression"

/-! ## Operands -/

/-- The positions in a number such as `0.1`, behind a point: fields of fields.  They are read from pieces
of the token, so that they have no place of their own. -/
def positions? (text : String) : Except String (List Nat) :=
  (text.splitOn ".").mapM position?

/-- Fields of fields, from the innermost. -/
def Expr.fields (first place : Span) (base : Expr) : List Nat → Expr
  | [] => base
  | index :: rest => fields first place (.field base index (first.join place)) rest

/-- The type arguments of a method. -/
def Rules.methodArguments (rules : Rules) : Reader Unit := do
  mark "::"
  mark "<"
  discard <| separated (atMark ">") "," do
    let tokens ← ahead
    if atLiteral tokens then literal
    else if atGroup .brace tokens then rules.labelledBlock
    else discard rules.anyType
  mark ">"

/-- The arguments of a call. -/
def Rules.callArguments (rules : Rules) : Reader (List Expr) :=
  inside .paren (listed rules.expr)

/-- A field or a method, behind the point, of an operand which begins at `first`. -/
def Rules.member (rules : Rules) (first : Span) (base : Expr) : Reader Expr := do
  let index ← fieldName
  match index with
  | some index => return .field base index (first.join (← get).last)
  | none =>
    let tokens ← ahead
    if atMark "::" tokens then
      rules.methodArguments
      discard rules.callArguments
    else if atGroup .paren tokens then discard rules.callArguments
    return .other (first.join (← get).last)

/-- Whether a float follows. -/
def atFloat : List Token → Bool
  | .literal text _ :: _ => LiteralKind.ofText text == .float
  | _ => false

/-- What follows a point. -/
def Rules.access (rules : Rules) (first : Span) (base : Expr) : Reader Expr := do
  mark "."
  if ← word? "await" then return .other (first.join (← get).last)
  else match ← ahead with
    | .literal text place :: rest =>
      if atFloat (.literal text place :: rest) then
        take 1
        let dangling := text.endsWith "."
        match positions? (if dangling then (text.dropEnd 1).toString else text) with
        | .error reason => fail (.notice reason) place
        | .ok indexes =>
          let place := { place with loose := true }
          modify ({ · with last := place })
          let field := base.fields first place indexes
          if dangling then rules.member first field else return field
      else rules.member first base
    | _ => rules.member first base

/-- **Trailers**: calls, fields, methods, indexes and `?` behind an operand which begins at `first`. -/
def Rules.trailers (rules : Rules) (first : Span) (base : Expr) : Reader Expr :=
  repeated (fun base => do
    let tokens ← ahead
    let isRange := match base with
      | .range _ => true
      | _ => false
    if atGroup .paren tokens then
      let arguments ← rules.callArguments
      let span := first.join (← get).last
      match arguments with
      | [argument] => return .more (.call base argument span)
      | _ => return .more (.other span)
    else if atMarkOnly "." [".."] tokens && !isRange then
      return .more (← rules.access first base)
    else if atGroup .bracket tokens then
      discard <| inside .bracket rules.expr
      return .more (.other (first.join (← get).last))
    else if atMark "?" tokens then
      mark "?"
      return .more (.other (first.join (← get).last))
    else
      return .done base) base

/-- **An operand**: an atom with its trailers, behind attributes and signs. -/
def Rules.readOperand (rules : Rules) (literals : Bool) : Reader Expr := do
  let outer ← here
  discard attributes
  let first ← here
  let tokens ← ahead
  let whole : Reader Span := return outer.join (← get).last
  if atMark "&" tokens then
    mark "&"
    let tokens ← ahead
    if atWord "raw" tokens && atAnyWord ["mut", "const"] (skip tokens) then take 2
    else discard <| word? "mut"
    discard <| rules.operand literals
    return .other (← whole)
  else if atWord "box" tokens || atMark "*" tokens || atMark "!" tokens then
    take 1
    discard <| rules.operand literals
    return .other (← whole)
  else if atMark "-" tokens then
    mark "-"
    let operand ← rules.operand literals
    return .neg operand (← whole)
  else
    let shape ← rules.readAtom literals
    let atom := shape (first.join (← get).last)
    let operand ← rules.trailers first atom
    return operand.withSpan (← whole)

/-! ## Statements -/

/-- **An expression where a statement begins.**  A block ends it, unless a field or `?` follows. -/
def Rules.readEarly (rules : Rules) : Reader Expr := do
  let first ← here
  discard attributes
  let closed ← do
    if ← peek (atWord "const") then
      rules.constBlock
      pure (some Expr.other)
    else if ← rules.blockExpr? then pure (some Expr.block)
    else pure none
  match closed with
  | none =>
    let left ← rules.operand true
    rules.operators first left true .any
  | some shape =>
    let left := shape (first.join (← get).last)
    if ← peek (fun tokens => atMarkOnly "." [".."] tokens || atMark "?" tokens) then
      let left ← rules.trailers first left
      rules.operators first left true .any
    else
      return left

end EnumTables.Source
