import EnumTables.Text.Quoted
import EnumTables.Token.Basic
import EnumTables.Token.Lexeme

/-!
# From text to tokens

* `Piece` and `piece?` — what stands at the beginning of a text, and how long it is.
* `docTokens` — the attribute which a documentation comment stands for.
* `Frame` — a bracket which is still open.
* `lex` — the tokens of a text, or the place which cannot be read.
-/

namespace EnumTables.Token

open EnumTables.Text

/-! ## Pieces -/

/-- What stands at the beginning of a text. -/
inductive Piece where
  /-- A blank or a comment. -/
  | blank
  /-- A documentation comment, on what it stands in or on what follows it. -/
  | doc (inner : Bool) (text : List Char)
  | opening (delimiter : Delimiter)
  | closing (delimiter : Delimiter)
  | literal
  | mark (joined : Bool)
  | ident

/-- A documentation comment to the end of the line, or any comment to the end of the line. -/
def linePiece (cs : List Char) : Piece × Nat :=
  let (text, ending) := lineLength cs
  let body := (cs.take text).drop 3
  if startsWith cs "//!" then (.doc true body, text + ending)
  else if startsWith cs "///" && !startsWith cs "////" then (.doc false body, text + ending)
  else (.blank, text + ending)

/-- A comment between `/*` and `*/`, documentation or not. -/
def blockPiece? (cs : List Char) : Option (Piece × Nat) := do
  let length ← blockCommentLength? cs
  let body := (cs.take (length - 2)).drop 3
  if startsWith cs "/*!" then some (.doc true body, length)
  else if startsWith cs "/**" && !startsWith cs "/***" && length != 4 then
    some (.doc false body, length)
  else some (.blank, length)

/-- The brackets. -/
def bracketPiece? : Char → Option Piece
  | '(' => some (.opening .paren)
  | '[' => some (.opening .bracket)
  | '\x7b' => some (.opening .brace)
  | ')' => some (.closing .paren)
  | ']' => some (.closing .bracket)
  | '\x7d' => some (.closing .brace)
  | _ => none

/-- Whether a carriage return stands without its line feed. -/
def bareReturn : List Char → Bool
  | [] => false
  | c :: rest => (c == '\r' && rest.head? != some '\n') || bareReturn rest

/-- **The piece at the beginning of a text** and its length, or nothing where no token begins. -/
def piece? (cs : List Char) : Option (Piece × Nat) :=
  match cs with
  | [] => none
  | c :: rest =>
    if isBlank c then some (.blank, 1)
    else if startsWith cs "//" || startsWith cs "/*" then do
      let piece ← if startsWith cs "//" then some (linePiece cs) else blockPiece? cs
      match piece.1 with
      | .doc _ text => if bareReturn text then none else some piece
      | _ => some piece
    else match bracketPiece? c with
      | some piece => some (piece, 1)
      | none =>
        match literalLength? cs with
        | some length => some (.literal, length)
        | none =>
          if c == '\'' then
            if startsLifetime cs then some (.mark true, 1) else none
          else if startsMark cs then some (.mark (startsMark rest), 1)
          else (fun length => (.ident, length)) <$> identLength? cs

/-! ## Documentation -/

/-- A text literal.  A NUL before an octal digit is written with two digits, so that it is not read as
another escape. -/
def textLiteral (text : String) : String :=
  let rec body : List Char → String
    | [] => ""
    | c :: rest =>
      let octal := match rest with
        | d :: _ => '0' ≤ d && d ≤ '7'
        | [] => false
      (if c == '\x00' && octal then "\\x00" else escapeChar c) ++ body rest
  "\"" ++ body text.toList ++ "\""

/-- The attribute `doc` which a documentation comment stands for, all of it at the place of the
comment. -/
def docTokens (inner : Bool) (text : List Char) (span : Span) : List Token :=
  [.mark '#' false span] ++ (if inner then [.mark '!' false span] else []) ++
    [.group .bracket
      [.ident "doc" span, .mark '=' false span, .literal (textLiteral (String.ofList text)) span] span]

/-! ## Texts -/

/-- A bracket which is still open: where it stands, and the tokens before it, backwards. -/
structure Frame where
  delimiter : Delimiter
  start : Position
  before : List Token

/-- **The tokens of a text**, from the position `here`, inside the brackets of `stack`, behind the
tokens of `done` (backwards).  An error is the place of what is no token, of a closing bracket which
does not match, or, at the end, of the innermost bracket which is still open. -/
def lexFrom (here : Position) (stack : List Frame) (done : List Token) (cs : List Char) :
    Except Position (List Token) :=
  match cs with
  | [] =>
    match stack with
    | [] => .ok done.reverse
    | frame :: _ => .error frame.start
  | c :: rest =>
    match piece? (c :: rest) with
    | none => .error here
    | some (piece, length) =>
      let taken := (c :: rest).take length
      let there := here.after taken
      let span : Span := ⟨here, there, false⟩
      let text := String.ofList taken
      let behind := rest.drop (length - 1)
      have : behind.length < (c :: rest).length := by
        simp only [behind, List.length_drop, List.length_cons]; omega
      match piece with
      | .blank => lexFrom there stack done behind
      | .doc inner body => lexFrom there stack ((docTokens inner body span).reverse ++ done) behind
      | .literal => lexFrom there stack (.literal text span :: done) behind
      | .ident => lexFrom there stack (.ident text span :: done) behind
      | .mark joined => lexFrom there stack (.mark c joined span :: done) behind
      | .opening delimiter => lexFrom there (⟨delimiter, here, done⟩ :: stack) [] behind
      | .closing delimiter =>
        match stack with
        | [] => .error here
        | frame :: outer =>
          if frame.delimiter = delimiter then
            let group := Token.group delimiter done.reverse ⟨frame.start, there, false⟩
            lexFrom there outer (group :: frame.before) behind
          else .error here
termination_by cs.length

/-- A text without the byte order mark it may begin with. -/
def withoutMark : List Char → List Char
  | '\ufeff' :: rest => rest
  | cs => cs

/-- The tokens of a text.  A byte order mark at the beginning takes a column and is no token. -/
def lex (cs : List Char) : Except Position (List Token) :=
  match cs with
  | '\ufeff' :: rest => lexFrom ⟨1, 1⟩ [] [] rest
  | cs => lexFrom .origin [] [] cs

end EnumTables.Token
