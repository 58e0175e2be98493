import EnumTables.Token.Span

/-!
# Tokens of source text

* `Delimiter` — the three kinds of brackets.
* `Token` — identifiers, marks, literals and bracketed groups of tokens.
* `Token.span`, `Token.openSpan`, `Token.closeSpan` — where a token, and the brackets of a group, stand.
* `spanOf` — from the first token of a list to the last.
-/

namespace EnumTables

namespace Token

/-- Kinds of brackets. -/
inductive Delimiter where
  | paren
  | bracket
  | brace
deriving DecidableEq, Repr

/-- What an error calls the brackets. -/
def Delimiter.describe : Delimiter → String
  | paren => "parentheses"
  | bracket => "square brackets"
  | brace => "curly braces"

end Token

open Token

/-- **A token.**  Brackets match by construction: a group holds the tokens between them.  A mark is
`joined` if the next character is a mark as well, as in `::`; identifiers keep a leading `r#`. -/
inductive Token where
  | ident (text : String) (span : Span)
  | mark (char : Char) (joined : Bool) (span : Span)
  | literal (text : String) (span : Span)
  | group (delimiter : Delimiter) (inner : List Token) (span : Span)
deriving Repr

namespace Token

def span : Token → Span
  | ident _ span | mark _ _ span | literal _ span | group _ _ span => span

/-- Where a token begins to be read: the opening bracket of a group, else all of it. -/
def openSpan : Token → Span
  | group _ _ span => span.firstColumn
  | token => token.span

/-- The closing bracket of a group, else the token. -/
def closeSpan : Token → Span
  | group _ _ span => span.lastColumn
  | token => token.span

/-- From the first token to the last; nowhere if there is none. -/
def spanOf (tokens : List Token) : Span :=
  match tokens with
  | [] => .nowhere
  | first :: rest => first.span.join ((rest.getLast?.map span).getD first.span)

end Token

end EnumTables
