import EnumTables.Token.Basic
import EnumTables.Token.Lexeme

/-!
# What literals say

* `IntegerLiteral` — a magnitude and a suffix; `IntegerLiteral.ofText?` reads one.
* `LiteralKind` and `LiteralKind.ofText` — which kind of literal a text is.
-/

namespace EnumTables.Token

open EnumTables.Text

/-- An integer literal without sign: what its digits say, and what follows them. -/
structure IntegerLiteral where
  magnitude : Nat
  suffix : String
deriving DecidableEq, Repr

/-! ## Integers -/

/-- Whether the text is an identifier, and so may be a suffix. -/
def isIdentifier (cs : List Char) : Bool :=
  plainIdentLength? cs == some cs.length

/-- Whether an `e` makes a float of a decimal literal: a sign follows it somewhere among digits and
underscores, or digits do, to the end or to a suffix. -/
def exponentFollows (digits : Bool) : List Char → Bool
  | [] => digits
  | c :: rest =>
    if c = '_' then exponentFollows digits rest
    else if c = '+' ∨ c = '-' then true
    else if c.isDigit then exponentFollows true rest
    else digits && isIdentifier (c :: rest)

/-- The magnitude of the digits and the rest behind them, or nothing if this is no integer. -/
def magnitude? (base value : Nat) (digits : Bool) : List Char → Option (Nat × List Char)
  | [] => if digits then some (value, []) else none
  | c :: rest =>
    let finish := if digits then some (value, c :: rest) else none
    if c = '_' then magnitude? base value digits rest
    else if base = 10 ∧ c = '.' then none
    else if base = 10 ∧ (c = 'e' ∨ c = 'E') then
      if exponentFollows false rest then none else finish
    else match digitValue? c with
      | none => finish
      | some digit =>
        if c.isDigit ∨ 10 < base then
          if digit < base then magnitude? base (base * value + digit) true rest else none
        else finish

/-- Reads an integer literal of any base, without its underscores. -/
def IntegerLiteral.ofText? (text : String) : Option IntegerLiteral := do
  let cs := text.toList
  if ! (cs.head?.any Char.isDigit) then none
  else
    let (base, lead) := baseOf cs
    let (magnitude, suffix) ← magnitude? base 0 false (cs.drop lead)
    if suffix.isEmpty || isIdentifier suffix then some ⟨magnitude, String.ofList suffix⟩ else none

/-! ## Kinds -/

/-- Kinds of literals, as far as a reader tells them apart. -/
inductive LiteralKind where
  | integer (value : IntegerLiteral)
  | float
  | string
  | other
deriving DecidableEq, Repr

/-- The kind of the text of a literal token. -/
def LiteralKind.ofText (text : String) : LiteralKind :=
  match text.toList with
  | c :: _ =>
    if c = '"' ∨ c = 'r' then .string
    else if c.isDigit then
      match IntegerLiteral.ofText? text with
      | some value => .integer value
      | none => .float
    else .other
  | [] => .other

end EnumTables.Token
