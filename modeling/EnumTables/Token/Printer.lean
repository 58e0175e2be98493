import EnumTables.Token.Basic

/-!
# From tokens to text

Tokens are written with one space between two of them, except behind a joined mark and inside of round
and square brackets.

* `render` — the text of some tokens.
-/

namespace EnumTables.Token

/-- What is written before and behind the tokens of a group. -/
def Delimiter.brackets : Delimiter → String × String
  | paren => ("(", ")")
  | bracket => ("[", "]")
  | brace => ("\x7b ", "\x7d")

mutual

/-- The text of one token. -/
def renderOne : Token → String
  | .ident text _ => text
  | .mark c _ _ => c.toString
  | .literal text _ => text
  | .group delimiter inner _ =>
    let (opening, closing) := delimiter.brackets
    let gap := if delimiter = .brace ∧ ¬ inner.isEmpty then " " else ""
    opening ++ render inner ++ gap ++ closing

/-- **The text of some tokens.** -/
def render : List Token → String
  | [] => ""
  | [token] => renderOne token
  | token :: rest =>
    let gap := match token with
      | .mark _ true _ => ""
      | _ => " "
    renderOne token ++ gap ++ render rest

end

end EnumTables.Token
