import EnumTables.Source.Items
import EnumTables.Token.Lexer

/-!
# Reading source text

* `rulesOf` — the rules, up to a depth.
* `fileOf` — a source file.
* `pathOf` — a path by itself.
-/

namespace EnumTables.Source

open EnumTables.Token

/-! ## Rules -/

/-- Rules which refuse everything: what is left of them when the depth is used up. -/
def Rules.exhausted : Rules where
  path _ := wanting []
  bound := wanting []
  type _ := wanting []
  pattern := wanting []
  operand _ := wanting []
  operators _ _ _ _ := wanting []
  early := wanting []
  statements := wanting []
  item := wanting []
  imports _ := wanting []

/-- Rules which leave what is nested in something to other rules. -/
def Rules.around (nested : Rules) : Rules where
  path := nested.readPath
  bound := nested.readBound
  type := nested.readType
  pattern := nested.readPattern
  operand := nested.readOperand
  operators := nested.readOperators
  early := nested.readEarly
  statements := nested.readStatements
  item := nested.readItem
  imports := nested.readImports

/-- **The rules up to a depth.** -/
def rulesOf (depth : Nat) : Rules :=
  Nat.repeat Rules.around depth .exhausted

mutual

/-- How many tokens there are, in brackets too. -/
def countOne : Token → Nat
  | .group _ inner _ => 1 + count inner
  | _ => 1

/-- How many tokens there are in a list, in brackets too. -/
def count : List Token → Nat
  | [] => 0
  | token :: rest => countOne token + count rest

end

/-- Rules deep enough for the tokens.  From one token to the next nested reading goes at most four steps
deep. -/
def rulesFor (tokens : List Token) : Rules :=
  rulesOf (4 * count tokens + 8)

/-- Reads all tokens. -/
def readAll {α : Type} (tokens : List Token) (body : Rules → Reader α) : Except Misread α := do
  let (value, after) ← (body (rulesFor tokens)).run
    { rest := tokens, scope := .nowhere, last := .nowhere, leftover := none }
  match after.leftover, after.rest with
  | some span, _ => throw ⟨.leftover, span⟩
  | none, token :: _ => throw ⟨.leftover, token.openSpan⟩
  | none, [] => return value

/-- The tokens of a text, or its first place which holds none. -/
def tokensOf (cs : List Char) : Except Misread (List Token) :=
  match lex cs with
  | .ok tokens => .ok tokens
  | .error at_ => .error ⟨.lexical, .point at_⟩

/-! ## Files -/

/-- The text behind blanks and comments. -/
def skipBlanks (cs : List Char) : List Char :=
  match cs with
  | [] => []
  | c :: rest =>
    match piece? (c :: rest) with
    | some (.blank, length) =>
      have : (rest.drop (length - 1)).length < (c :: rest).length := by
        simp only [List.length_drop, List.length_cons]; omega
      skipBlanks (rest.drop (length - 1))
    | _ => c :: rest
termination_by cs.length

/-- A text without its first line, if that says which program runs the file.  `#![` is an attribute. -/
def withoutRunner (cs : List Char) : List Char :=
  match cs with
  | '#' :: '!' :: rest =>
    if (skipBlanks rest).head? = some '[' then cs else cs.dropWhile (· != '\n')
  | _ => cs

/-- **A source file.** -/
def fileOf (text : String) : Except Misread SourceFile := do
  let tokens ← tokensOf (withoutRunner (withoutMark text.toList))
  let items ← readAll tokens fun rules => do
    innerAttributes
    untilEnd rules.item
  return ⟨items, spanOf tokens⟩

/-! ## Paths -/

/-- A path by itself, as a type is named. -/
def pathOf (text : String) : Except Misread Path := do
  readAll (← tokensOf text.toList) fun rules => rules.path false

end EnumTables.Source
