import EnumTables.Source.Expressions

/-!
# Statements

* `atItem` — whether a statement is an item.
* `Rules.readStatements` — the statements of a block.
-/

namespace EnumTables.Source

open EnumTables.Token

/-! ## What follows -/

/-- Whether the statement which follows is an item.  Words which also begin expressions are looked at
together with what stands behind them. -/
def atItem (tokens : List Token) : Bool :=
  let second := skip tokens
  let third := skip second
  atAnyWord ["pub", "extern", "use", "fn", "mod", "type", "struct", "enum", "trait", "impl", "macro"]
    tokens ||
  (atWord "crate" tokens && !atMark "::" second) ||
  (atWord "static" tokens &&
    (atWord "mut" second ||
      (atIdent second &&
        !(atWord "async" second && (atWord "move" third || atMark "|" third))))) ||
  (atWord "const" tokens &&
    !(atGroup .brace second || atWord "static" second ||
      (atWord "async" second && !atAnyWord ["unsafe", "extern", "fn"] third) ||
      atWord "move" second || atMark "|" second)) ||
  (atWord "unsafe" tokens && !atGroup .brace second) ||
  (atWord "async" tokens && atAnyWord ["unsafe", "extern", "fn"] second) ||
  (atWord "union" tokens && atIdent second) ||
  (atWord "auto" tokens && atWord "trait" second) ||
  (atWord "default" tokens && atAnyWord ["unsafe", "impl"] second)

/-- Whether a macro follows which is a statement by itself: one with braces, or one which gives a
name. -/
def atStatementMacro (tokens : List Token) : Bool :=
  let second := skip tokens
  let third := skip second
  atMark "!" tokens &&
    ((atGroup .brace second && !(atMark "." third || atMark "?" third)) || atIdent second)

/-! ## Statements -/

/-- A macro as a statement; whether it is one. -/
def statementMacro? : Reader Bool := do
  let found ← attempt do
    discard plainPath
    peek atStatementMacro
  if found = some true then
    mark "!"
    ident?
    discard anyGroup
    discard <| mark? ";"
    return true
  else
    return false

/-- `let`, with what it may be bound to and what is done otherwise. -/
def Rules.letStatement (rules : Rules) : Reader Unit := do
  word "let"
  rules.anyAlternatives
  if ← mark? ":" then discard rules.anyType
  if ← mark? "=" then
    discard rules.expr
    if ← word? "else" then rules.block
  mark ";"

/-- A statement; whether it may only be followed by another if a semicolon ends it, and none does. -/
def Rules.statement (rules : Rules) : Reader Bool := do
  discard attributes
  let start ← get
  if ← statementMacro? then return false
  else
    set start
    let tokens ← ahead
    if atWord "let" tokens then
      rules.letStatement
      return false
    else if atItem tokens then
      discard rules.item
      return false
    else
      let expr ← rules.early
      if ← mark? ";" then return false
      else match expr with
        | .block _ => return false
        | _ => return true

/-- **The statements of a block.** -/
def Rules.readStatements (rules : Rules) : Reader Unit :=
  repeated (fun _ => do
    whileAt (atMark ";") (mark ";")
    if ← ended then return .done ()
    else
      let open_ ← rules.statement
      if ← ended then return .done ()
      else
        if open_ then refuse "unexpected token"
        return .more ()) ()

end EnumTables.Source
