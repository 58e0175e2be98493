import EnumTables.Source.Basic
import EnumTables.Token.Lexer

/-!
# Tokens with gaps

* `identToken`, `stringToken`, `colons`, `commas` — tokens which belong to no text.
* `respaced` — tokens as they are written anew, each mark joined only to its own kind.
* `pathTokens` — a path.
* `fill` — tokens in which every `$` is filled with other tokens.
* `template` — the tokens of a text, filled.
-/

namespace EnumTables.Companion

open EnumTables.Source EnumTables.Token

/-! ## Tokens of no text -/

def identToken (text : String) : Token := .ident text .nowhere

def stringToken (text : String) : Token := .literal (textLiteral text) .nowhere

/-- The mark `::`. -/
def colons : List Token := [.mark ':' true .nowhere, .mark ':' false .nowhere]

/-- Lists of tokens with commas between them. -/
def commas (parts : List (List Token)) : List Token :=
  [Token.mark ',' false .nowhere].intercalate parts

/-! ## Paths -/

/-- Marks of several characters among types, and among values too. -/
def typeMarks : List String := ["::", "->", "..."]

def valueMarks : List String :=
  ["<<=", ">>=", "...", "..=", "::", "->", "=>", "==", "!=", "<=", ">=", "&&", "||", "<<", ">>", "+=",
    "-=", "*=", "/=", "%=", "^=", "&=", "|=", ".."]

/-- Whether a mark of several characters begins here; how many more characters it has. -/
def longMark (marks : List String) (tokens : List Token) : Nat :=
  let chars := tokens.map fun
    | .mark c _ _ => c
    | _ => ' '
  let joined := (tokens.takeWhile fun
    | .mark _ joined _ => joined
    | _ => false).length
  match marks.find? fun text => text.toList.isPrefixOf chars && text.length ≤ joined + 1 with
  | some text => text.length - 1
  | none => 0

mutual

/-- A token as it is written anew; in brackets there are values. -/
def respacedOne : Token → Token
  | .group delimiter inner span => .group delimiter (respaced valueMarks 0 inner) span
  | token => token

/-- Tokens as they are written anew: a mark is joined to the next within a mark of several characters,
of which `more` are left, and the quote of a lifetime to its name. -/
def respaced (marks : List String) (more : Nat) : List Token → List Token
  | [] => []
  | .mark c joined span :: rest =>
    let more := if more = 0 then longMark marks (.mark c joined span :: rest) else more - 1
    .mark c (c == '\'' || more != 0) span :: respaced marks more rest
  | token :: rest => respacedOne token :: respaced marks 0 rest

end

def argumentTokens : PathArguments → List Token
  | .none => []
  | .angle _ tokens | .paren tokens => respaced typeMarks 0 tokens

/-- The tokens of a path. -/
def pathTokens (path : Path) : List Token :=
  let segments := path.segments.map fun segment =>
    identToken segment.name :: argumentTokens segment.arguments
  (if path.rooted then colons else []) ++ colons.intercalate segments

/-- The tokens of a visibility. -/
def visibilityTokens : Visibility → List Token
  | .inherited => []
  | .everywhere => [identToken "pub"]
  | .crate => [identToken "crate"]
  | .restricted within path =>
    let inner := (if within then [identToken "in"] else []) ++ pathTokens path
    [identToken "pub", .group .paren inner .nowhere]

/-! ## Templates -/

mutual

/-- A token with its gaps filled; what is left for the gaps behind it. -/
def fillOne (parts : List (List Token)) : Token → List Token × List (List Token)
  | .mark '$' _ _ =>
    match parts with
    | part :: rest => (part, rest)
    | [] => ([], [])
  | .group delimiter inner span =>
    let (inner, rest) := fill parts inner
    ([.group delimiter inner span], rest)
  | token => ([token], parts)

/-- Tokens in which each `$` is filled with the next of the parts. -/
def fill (parts : List (List Token)) : List Token → List Token × List (List Token)
  | [] => ([], parts)
  | token :: rest =>
    let (here, parts) := fillOne parts token
    let (behind, parts) := fill parts rest
    (here ++ behind, parts)

end

/-- **The tokens of a text, with each `$` filled by the next of the parts.** -/
def template (text : String) (parts : List (List Token)) : List Token :=
  match lex text.toList with
  | .ok tokens => (fill parts tokens).1
  | .error _ => []

end EnumTables.Companion
