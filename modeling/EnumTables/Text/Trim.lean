import EnumTables.Text.CharClass

/-!
# Text without white space around it

* `trimEnd`, `trimmed` — without it behind, and on both sides.
-/

namespace EnumTables.Text

/-- The characters without white space behind them. -/
def trimEnd (cs : List Char) : List Char :=
  (cs.reverse.dropWhile isWhite).reverse

/-- The characters without white space around them. -/
def trimmed (cs : List Char) : List Char :=
  trimEnd (cs.dropWhile isWhite)

end EnumTables.Text
