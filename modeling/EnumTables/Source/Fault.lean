import EnumTables.Token.Span

/-!
# Faults of source text

* `SyntaxFault` — why a text is no source file.
* `SyntaxFault.message` — how that is said.
* `Misread` — a fault at its place.
-/

namespace EnumTables.Source

open EnumTables.Token

/-- Why a text cannot be read. -/
inductive SyntaxFault where
  /-- Something is no token, or a bracket has no partner. -/
  | lexical
  /-- Something else was wanted, and the tokens ended or (`atEnd` is false) went on differently. -/
  | expected (wanted : List String) (atEnd : Bool)
  /-- Tokens are left where a bracket should close. -/
  | leftover
  /-- A rule of its own was broken. -/
  | notice (text : String)
deriving DecidableEq, Repr

/-- Alternatives of what was wanted. -/
def alternatives : List String → String
  | [one] => "expected " ++ one
  | [one, two] => "expected " ++ one ++ " or " ++ two
  | many => "expected one of: " ++ ", ".intercalate many

/-- The wording of a fault. -/
def SyntaxFault.message : SyntaxFault → String
  | lexical => "lex error"
  | expected [] true => "unexpected end of input"
  | expected [] false => "unexpected token"
  | expected wanted true => "unexpected end of input, " ++ alternatives wanted
  | expected wanted false => alternatives wanted
  | leftover => "unexpected token"
  | notice text => text

/-- A fault and its place. -/
structure Misread where
  fault : SyntaxFault
  span : Span
deriving DecidableEq, Repr

def Misread.message (misread : Misread) : String := misread.fault.message

end EnumTables.Source
