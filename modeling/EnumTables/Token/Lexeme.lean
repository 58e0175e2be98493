import EnumTables.Text.CharClass

/-!
# The shapes of tokens

How many characters the token at the beginning of a text has.  Each function looks at the rest of the
text and gives the length of one shape, or nothing if the text does not begin with it.

* `identLength?` — identifiers, raw ones included.
* `numberLength?` — integer and float literals.
* `quotedLength?` — string, byte string, C string, byte and character literals.
* `literalLength?` — any literal.
* `markChars` and `startsMark` — punctuation marks.
* `lineLength`, `blockCommentLength?` — comments.
-/

namespace EnumTables.Token

open EnumTables.Text

/-- Whether the text begins with the given one. -/
def startsWith (cs : List Char) (text : String) : Bool :=
  text.toList.isPrefixOf cs

/-! ## Identifiers -/

/-- An identifier without `r#`. -/
def plainIdentLength? : List Char → Option Nat
  | c :: rest => if isIdentStart c then some (1 + (rest.takeWhile isIdentContinue).length) else none
  | [] => none

/-- The words which no raw identifier may be made of. -/
def neverRaw : List String := ["_", "super", "self", "Self", "crate"]

/-- An identifier, raw or not. -/
def anyIdentLength? (cs : List Char) : Option Nat :=
  if startsWith cs "r#" then do
    let length ← plainIdentLength? (cs.drop 2)
    if neverRaw.contains (String.ofList ((cs.drop 2).take length)) then none
    else some (2 + length)
  else
    plainIdentLength? cs

/-- What begins a literal which turned out to be malformed, and so no identifier either. -/
def literalOpeners : List String :=
  ["r\"", "r#\"", "r##", "b\"", "b'", "br\"", "br#", "c\"", "cr\"", "cr#"]

/-- An identifier where no literal begins. -/
def identLength? (cs : List Char) : Option Nat :=
  if literalOpeners.any (startsWith cs) then none else anyIdentLength? cs

/-- A literal of `length` characters together with the suffix that may follow it. -/
def withSuffix (cs : List Char) (length : Nat) : Nat :=
  length + (plainIdentLength? (cs.drop length)).getD 0

/-! ## Numbers -/

/-- A number may not run into what goes on like an identifier. -/
def wordEnds (cs : List Char) (length : Nat) : Option Nat :=
  match cs.drop length with
  | c :: _ => if isIdentContinue c then none else some length
  | [] => some length

/-- What an `e` of a float literal is followed by. -/
structure Exponent where
  length : Nat
  signed : Bool
  valued : Bool

/-- Reads sign, digits and underscores of an exponent; a second sign before any digit is refused. -/
def exponent? (seen : Exponent) : List Char → Option Exponent
  | [] => some seen
  | c :: rest =>
    if c = '+' ∨ c = '-' then
      if seen.valued then some seen
      else if seen.signed then none
      else exponent? { seen with length := seen.length + 1, signed := true } rest
    else if c.isDigit then
      exponent? { seen with length := seen.length + 1, valued := true } rest
    else if c = '_' then
      exponent? { seen with length := seen.length + 1 } rest
    else
      some seen

/-- The digits, the point and the exponent of a float literal, from behind its first digit.  `length`
counts what was read.  A point which is followed by another one or by an identifier is not part of a
number, and an exponent without digits is none. -/
def floatTail? (length : Nat) (dotted : Bool) : List Char → Option Nat
  | [] => if dotted then some length else none
  | c :: rest =>
    if c.isDigit ∨ c = '_' then
      floatTail? (length + 1) dotted rest
    else if c = '.' then
      if dotted then some length
      else match rest with
        | next :: _ => if next = '.' ∨ isIdentStart next then none else floatTail? (length + 1) true rest
        | [] => some (length + 1)
    else if c = 'e' ∨ c = 'E' then
      match exponent? ⟨0, false, false⟩ rest with
      | some exponent =>
        if exponent.valued then some (length + 1 + exponent.length)
        else if dotted then some length else none
      | none => if dotted then some length else none
    else if dotted then some length
    else none

/-- A float literal, with its suffix. -/
def floatLength? (cs : List Char) : Option Nat := do
  let length ←
    match cs with
    | c :: rest => if c.isDigit then floatTail? 1 false rest else none
    | [] => none
  wordEnds cs (withSuffix cs length)

/-- The base which two characters announce, and how many characters that takes. -/
def baseOf (cs : List Char) : Nat × Nat :=
  if startsWith cs "0x" then (16, 2)
  else if startsWith cs "0o" then (8, 2)
  else if startsWith cs "0b" then (2, 2)
  else (10, 0)

/-- The value of a digit or letter as a digit of any base up to sixteen. -/
def digitValue? (c : Char) : Option Nat :=
  if c.isDigit then some (c.toNat - '0'.toNat)
  else if 'a' ≤ c ∧ c ≤ 'f' then some (c.toNat - 'a'.toNat + 10)
  else if 'A' ≤ c ∧ c ≤ 'F' then some (c.toNat - 'A'.toNat + 10)
  else none

/-- The digits of an integer literal.  A decimal digit which the base does not have spoils it; a letter
which the base does not have ends it. -/
def digitsLength? (base : Nat) (length : Nat) (empty : Bool) : List Char → Option Nat
  | [] => if empty then none else some length
  | c :: rest =>
    if c = '_' then
      if empty && base == 10 then none else digitsLength? base (length + 1) empty rest
    else match digitValue? c with
      | some digit =>
        if digit < base then digitsLength? base (length + 1) false rest
        else if c.isDigit then none
        else if empty then none else some length
      | none => if empty then none else some length

/-- An integer literal, with its suffix. -/
def integerLength? (cs : List Char) : Option Nat := do
  let (base, lead) := baseOf cs
  let digits ← digitsLength? base 0 true (cs.drop lead)
  wordEnds cs (withSuffix cs (lead + digits))

def numberLength? (cs : List Char) : Option Nat :=
  floatLength? cs <|> integerLength? cs

/-! ## Escapes -/

/-- What a quoted literal allows: all characters or ASCII only, code points by number or not, and
whether it may hold the character NUL. -/
structure Alphabet where
  ascii : Bool
  codePoints : Bool
  nul : Bool
  /-- The least hexadecimal escape of two digits which is too large. -/
  escapeBound : Nat

/-- Any character, and code points by number. -/
def Alphabet.text : Alphabet := ⟨false, true, true, 0x80⟩

/-- Bytes. -/
def Alphabet.bytes : Alphabet := ⟨true, false, true, 0x100⟩

/-- Text which ends at its first NUL, so none may be written in it. -/
def Alphabet.terminated : Alphabet := ⟨false, true, false, 0x100⟩

/-- Two digits to the base sixteen, behind `\x`. -/
def hexEscapeLength? (alphabet : Alphabet) : List Char → Option Nat
  | a :: b :: _ => do
    let value := 16 * (← digitValue? a) + (← digitValue? b)
    if value < alphabet.escapeBound && (alphabet.nul || value != 0) then some 2 else none
  | _ => none

/-- Up to six digits to the base sixteen with underscores after the first, and the closing brace. -/
def codePointLength? (alphabet : Alphabet) (length digits value : Nat) : List Char → Option Nat
  | [] => none
  | c :: rest =>
    if c = '_' then
      if digits = 0 then none else codePointLength? alphabet (length + 1) digits value rest
    else if c = '\x7d' then
      if digits = 0 ∨ ¬ value.isValidChar ∨ (¬ alphabet.nul ∧ value = 0) then none
      else some (length + 1)
    else match digitValue? c with
      | some digit =>
        if digits = 6 then none
        else codePointLength? alphabet (length + 1) (digits + 1) (16 * value + digit) rest
      | none => none

/-- The characters which a backslash may stand before, besides the escapes by number. -/
def simpleEscapes (alphabet : Alphabet) : List Char :=
  ['n', 'r', 't', '\\', '\'', '"'] ++ if alphabet.nul then ['0'] else []

/-- The escape behind a backslash. -/
def escapeLength? (alphabet : Alphabet) : List Char → Option Nat
  | [] => none
  | c :: rest =>
    if c = 'x' then (1 + ·) <$> hexEscapeLength? alphabet rest
    else if c = 'u' ∧ alphabet.codePoints then
      match rest with
      | '\x7b' :: inner => (2 + ·) <$> codePointLength? alphabet 0 0 0 inner
      | _ => none
    else if (simpleEscapes alphabet).contains c then some 1
    else none

/-- The blanks which a backslash at the end of a line swallows, from behind the first line end
character `last`.  A carriage return must be followed by a line feed, and the literal must go on. -/
def continuationLength? (length : Nat) (last : Char) : List Char → Option Nat
  | [] => none
  | c :: rest =>
    if last = '\r' then
      if c = '\n' then
        match rest with
        | [] => none
        | d :: behind =>
          if d = ' ' ∨ d = '\t' ∨ d = '\n' ∨ d = '\r' then continuationLength? (length + 2) d behind
          else some (length + 1)
      else none
    else if c = ' ' ∨ c = '\t' ∨ c = '\n' ∨ c = '\r' then continuationLength? (length + 1) c rest
    else some length

/-! ## Quoted literals -/

/-- **A literal with escapes**, from behind its opening quote to its closing one.  `fuel` bounds the
characters left. -/
def cookedLength? (alphabet : Alphabet) : Nat → Nat → List Char → Option Nat
  | 0, _, _ => none
  | _, _, [] => none
  | fuel + 1, length, c :: rest =>
    if c = '"' then some (length + 1)
    else if c = '\r' then
      match rest with
      | '\n' :: behind => cookedLength? alphabet fuel (length + 2) behind
      | _ => none
    else if c = '\\' then
      match rest with
      | d :: behind =>
        if d = '\n' ∨ d = '\r' then do
          let skipped ← continuationLength? 0 d behind
          cookedLength? alphabet fuel (length + 2 + skipped) (behind.drop skipped)
        else do
          let escape ← escapeLength? alphabet rest
          cookedLength? alphabet fuel (length + 1 + escape) (rest.drop escape)
      | [] => none
    else if (alphabet.ascii && 128 ≤ c.toNat) || (!alphabet.nul && c.toNat == 0) then none
    else cookedLength? alphabet fuel (length + 1) rest

/-- The text of a raw literal, from behind its opening quote to its closing hashes. -/
def rawBodyLength? (alphabet : Alphabet) (hashes : List Char) (length : Nat) : List Char → Option Nat
  | [] => none
  | '\r' :: '\n' :: rest => rawBodyLength? alphabet hashes (length + 2) rest
  | c :: rest =>
    if c = '"' ∧ hashes.isPrefixOf rest then some (length + 1 + hashes.length)
    else if c = '\r' then none
    else if (alphabet.ascii && 128 ≤ c.toNat) || (!alphabet.nul && c.toNat == 0) then none
    else rawBodyLength? alphabet hashes (length + 1) rest

/-- A raw literal, from behind its `r`: up to 255 hashes, a quote, the text, a quote, the hashes. -/
def rawLength? (alphabet : Alphabet) (cs : List Char) : Option Nat :=
  let hashes := cs.takeWhile (· == '#')
  match cs.drop hashes.length with
  | '"' :: body =>
    if hashes.length ≤ 255 then
      (hashes.length + 1 + ·) <$> rawBodyLength? alphabet hashes 0 body
    else none
  | _ => none

/-- A character or byte between single quotes, from behind the opening one. -/
def singleLength? (alphabet : Alphabet) : List Char → Option Nat
  | [] => none
  | c :: rest => do
    let length ←
      if c = '\\' then (1 + ·) <$> escapeLength? alphabet rest
      else if alphabet.ascii && 128 ≤ c.toNat then none
      else some 1
    match (c :: rest).drop length with
    | '\'' :: _ => some (length + 1)
    | _ => none

/-- One quoted shape: what opens it, and the length of what follows. -/
def openedBy (cs : List Char) (opener : String) (body : List Char → Option Nat) : Option Nat :=
  if startsWith cs opener then
    (fun length => withSuffix cs (opener.length + length)) <$> body (cs.drop opener.length)
  else none

/-- A string, byte string, C string, byte or character literal, with its suffix. -/
def quotedLength? (cs : List Char) : Option Nat :=
  let cooked alphabet (body : List Char) := cookedLength? alphabet (body.length + 1) 0 body
  openedBy cs "\"" (cooked .text) <|> openedBy cs "r" (rawLength? .text) <|>
    openedBy cs "b\"" (cooked .bytes) <|> openedBy cs "br" (rawLength? .bytes) <|>
    openedBy cs "c\"" (cooked .terminated) <|> openedBy cs "cr" (rawLength? .terminated) <|>
    openedBy cs "b'" (singleLength? .bytes) <|>
    openedBy cs "'" (singleLength? .text)

def literalLength? (cs : List Char) : Option Nat :=
  quotedLength? cs <|> numberLength? cs

/-! ## Marks and comments -/

/-- The punctuation marks. -/
def markChars : List Char := "~!@#$%^&*-=+|;:,<.>/?'".toList

/-- Whether the text begins with a mark, and not with a comment. -/
def startsMark (cs : List Char) : Bool :=
  !(startsWith cs "//" || startsWith cs "/*") &&
    match cs with
    | c :: _ => markChars.contains c
    | [] => false

/-- Whether a single quote at the beginning opens a lifetime: an identifier follows it which no quote
closes. -/
def startsLifetime (cs : List Char) : Bool :=
  match cs with
  | '\'' :: rest =>
    match anyIdentLength? rest with
    | some length =>
      match rest.drop length with
      | '\'' :: _ => false
      | '#' :: _ => startsWith rest "r#"
      | _ => true
    | none => false
  | _ => false

/-- The rest of a line: the characters of its text, and how many end it.  A carriage return counts to
the end only right before the line feed, which itself is left. -/
def lineLength : List Char → Nat × Nat
  | [] => (0, 0)
  | c :: rest =>
    if c = '\n' then (0, 0)
    else if c = '\r' ∧ rest.head? = some '\n' then (0, 1)
    else
      let (text, ending) := lineLength rest
      (text + 1, ending)

/-- A block comment with the comments nested in it, from inside `depth` of them. -/
def blockTail? (depth length : Nat) : List Char → Option Nat
  | '/' :: '*' :: rest => blockTail? (depth + 1) (length + 2) rest
  | '*' :: '/' :: rest =>
    if depth ≤ 1 then some (length + 2) else blockTail? (depth - 1) (length + 2) rest
  | _ :: rest => blockTail? depth (length + 1) rest
  | [] => none

def blockCommentLength? (cs : List Char) : Option Nat :=
  if startsWith cs "/*" then blockTail? 0 0 cs else none

end EnumTables.Token
