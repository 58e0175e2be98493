import EnumTables.Text.CharClass

/-!
# Quoted text

How a text is shown inside a message: between double quotes, with everything escaped that would not
be seen, would be mistaken, or would merge with its neighbour.

* `escapeChar` — one character.
* `quoted` — a text in quotes.
* `quotedList` — values which are shown already, as a list in brackets.
-/

namespace EnumTables.Text

/-- The digits of `n` to the base sixteen, in lower case and without leading zeros. -/
def hexDigits (n : Nat) : String :=
  String.ofList (Nat.toDigits 16 n)

/-- **One character of a quoted text.**  The single quote stands for itself. -/
def escapeChar (c : Char) : String :=
  match c with
  | '"' => "\\\""
  | '\\' => "\\\\"
  | '\n' => "\\n"
  | '\r' => "\\r"
  | '\t' => "\\t"
  | '\x00' => "\\0"
  | c => if isEscaped c then "\\u\x7b" ++ hexDigits c.toNat ++ "\x7d" else c.toString

/-- A text in double quotes. -/
def quoted (text : String) : String :=
  "\"" ++ String.join (text.toList.map escapeChar) ++ "\""

/-- Values in brackets, parted by commas. -/
def quotedList (shown : List String) : String :=
  "[" ++ ", ".intercalate shown ++ "]"

end EnumTables.Text
