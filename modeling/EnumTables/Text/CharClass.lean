import EnumTables.Text.AlphanumericRanges
import EnumTables.Text.CasedRanges
import EnumTables.Text.EscapedRanges
import EnumTables.Text.IdentifierRanges

/-!
# Classes of characters

Membership in the Unicode properties which decide where an identifier ends, what separates tokens,
where a word ends, and how a character is shown in quoted text.  `Char.isAlpha` and its relatives
know ASCII only, so each class here asks its table for everything beyond.

* `inRanges` — membership in a table of ranges.
* `isIdentStart`, `isIdentContinue` — identifiers.
* `isWhite`, `isBlank` — white space, and what separates tokens.
* `isAlphanumeric`, `isLowercase`, `isUppercase`, `isCased`, `isCaseIgnorable` — words and case.
* `isEscaped` — what quoted text does not show as itself.
-/

namespace EnumTables.Text

/-- Whether one of the closed ranges holds the code point of `c`. -/
def inRanges (ranges : Array (Nat × Nat)) (c : Char) : Bool :=
  ranges.any fun range => range.1 ≤ c.toNat && c.toNat ≤ range.2

/-! ## Identifiers and blanks -/

/-- An identifier begins with a letter of any script or with an underscore. -/
def isIdentStart (c : Char) : Bool :=
  if c.toNat < 128 then c.isAlpha || c == '_' else inRanges identStartRanges c

/-- An identifier goes on with letters, digits, marks and connecting punctuation. -/
def isIdentContinue (c : Char) : Bool :=
  if c.toNat < 128 then c.isAlphanum || c == '_' else inRanges identContinueRanges c

/-- White space of Unicode. -/
def isWhite (c : Char) : Bool :=
  (9 ≤ c.toNat && c.toNat ≤ 13) || c == ' ' || c.toNat == 0x85 || c.toNat == 0xA0 ||
    c.toNat == 0x1680 || (0x2000 ≤ c.toNat && c.toNat ≤ 0x200A) || c.toNat == 0x2028 ||
    c.toNat == 0x2029 || c.toNat == 0x202F || c.toNat == 0x205F || c.toNat == 0x3000

/-- White space, and the two marks of writing direction. -/
def isBlank (c : Char) : Bool :=
  isWhite c || c.toNat == 0x200E || c.toNat == 0x200F

/-! ## Words and case -/

/-- Letters and numbers of any script. -/
def isAlphanumeric (c : Char) : Bool :=
  if c.toNat < 128 then c.isAlphanum else inRanges alphanumericRanges c

def isLowercase (c : Char) : Bool :=
  if c.toNat < 128 then c.isLower else inRanges lowercaseRanges c

def isUppercase (c : Char) : Bool :=
  if c.toNat < 128 then c.isUpper else inRanges uppercaseRanges c

/-- Lower, upper and title case alike. -/
def isCased (c : Char) : Bool :=
  if c.toNat < 128 then c.isAlpha else inRanges casedRanges c

/-- Marks and signs which do not end a word when its case is looked at. -/
def isCaseIgnorable (c : Char) : Bool :=
  inRanges caseIgnorableRanges c

/-! ## Display -/

/-- Whether quoted text writes `c` by its number: it has no shape of its own, or it would merge with
the character before it.  The space is shown. -/
def isEscaped (c : Char) : Bool :=
  if c.toNat < 127 then c.toNat < 32 else inRanges escapedRanges c

end EnumTables.Text
