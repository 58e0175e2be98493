import EnumTables.Source.Reader

/-!
# The rules which refer to each other

Types hold expressions, expressions hold statements, statements hold items, and items hold all of them.
`Rules` names the readers through which one kind of thing reaches another; each reader of the modules
below takes the rules for what is nested in it, and none of them calls itself.

* `Precedence` — how tight an operator binds.
* `Rules` — the readers for nested things.
* `Rules.expr` — a whole expression.
-/

namespace EnumTables.Source

open EnumTables.Token

/-! ## Precedence -/

/-- How tight an operator binds, from the loosest to the tightest. -/
inductive Precedence where
  | any | assign | range | or | and | compare
  | bitOr | bitXor | bitAnd | shift | sum | product | cast
deriving DecidableEq, Repr

/-- The place among all, counted from the loosest. -/
def Precedence.rank : Precedence → Nat
  | any => 0
  | assign => 1
  | range => 2
  | or => 3
  | and => 4
  | compare => 5
  | bitOr => 6
  | bitXor => 7
  | bitAnd => 8
  | shift => 9
  | sum => 10
  | product => 11
  | cast => 12

/-! ## Rules -/

/-- **Readers for nested things.** -/
structure Rules where
  /-- A path with arguments; whether it stands in an expression, where arguments need `::`. -/
  path : Bool → Reader Path
  /-- A trait or a lifetime which something is bound by. -/
  bound : Reader Unit
  /-- A type; whether bounds may be added with `+`. -/
  type : Bool → Reader Ty
  pattern : Reader Unit
  /-- An operand with what stands before and behind it; whether `A` may begin a struct literal. -/
  operand : Bool → Reader Expr
  /-- Operators which bind at least as tight as the precedence, behind an operand which begins at the
  span. -/
  operators : Span → Expr → Bool → Precedence → Reader Expr
  /-- An expression where a statement or the arm of a `match` begins. -/
  early : Reader Expr
  /-- Statements until nothing is left. -/
  statements : Reader Unit
  item : Reader Item
  /-- What is imported; whether it may begin at the root. -/
  imports : Bool → Reader Unit

namespace Rules

/-- An expression; whether a struct literal may stand in it. -/
def exprWith (rules : Rules) (literals : Bool) : Reader Expr := do
  let first ← here
  let left ← rules.operand literals
  rules.operators first left literals .any

def expr (rules : Rules) : Reader Expr := rules.exprWith true

/-- An expression which ends before a brace, as in `if a { .. }`. -/
def exprBeforeBrace (rules : Rules) : Reader Expr := rules.exprWith false

/-- A type to which bounds may be added. -/
def anyType (rules : Rules) : Reader Ty := rules.type true

/-- A type which ends before a `+`. -/
def singleType (rules : Rules) : Reader Ty := rules.type false

end Rules

end EnumTables.Source
