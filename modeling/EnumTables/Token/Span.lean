/-!
# Places in a source text

* `Position` — a line, counted from 1, and a column, counted in characters from 0.
* `Span` — from one position to another; a *loose* span belongs to no place of the text.
* `Span.join` — from the first of two spans to the last.
* `Position.after` — where the text goes on behind some characters.
-/

namespace EnumTables.Token

/-- A place between two characters of a text. -/
structure Position where
  line : Nat
  column : Nat
deriving DecidableEq, Repr

namespace Position

/-- Where a text begins. -/
def origin : Position := ⟨1, 0⟩

/-- The place behind one more character.  Only the line feed ends a line. -/
def step (at_ : Position) (c : Char) : Position :=
  if c = '\n' then ⟨at_.line + 1, 0⟩ else ⟨at_.line, at_.column + 1⟩

/-- The place behind some characters. -/
def after (at_ : Position) (cs : List Char) : Position :=
  cs.foldl step at_

end Position

/-- A stretch of a text.  It is `loose` if it was read from a piece of text cut out of a token, so that
nothing can be joined to it. -/
structure Span where
  start : Position
  stop : Position
  loose : Bool := false
deriving DecidableEq, Repr

namespace Span

/-- The span of what has no place, and of the end of a text: empty, at the beginning. -/
def nowhere : Span := ⟨.origin, .origin, false⟩

/-- A span of one position. -/
def point (at_ : Position) : Span := ⟨at_, at_, false⟩

/-- From the beginning of `first` to the end of `last`, or `first` alone if `last` is loose. -/
def join (first last : Span) : Span :=
  if last.loose then first else { first with stop := last.stop }

/-- The first character of a span. -/
def firstColumn (span : Span) : Span :=
  { span with stop := ⟨span.start.line, span.start.column + 1⟩ }

/-- The last character of a span which does not end at the beginning of a line. -/
def lastColumn (span : Span) : Span :=
  { span with start := ⟨span.stop.line, span.stop.column - 1⟩ }

end Span

end EnumTables.Token
