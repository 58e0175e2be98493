import EnumTables.Text.CharClass

/-!
# The words of an identifier

An identifier is read as a sequence of words: whatever is neither letter nor number parts them, and so
does a change of case inside a run of letters and numbers.

* `LetterCase` — the case of the last cased letter of the word being read.
* `wordsOfRun` — the words of one run.
* `runs` — the runs of a text.
* `words` — the words of a text.
-/

namespace EnumTables.Text

/-- The case of the last cased letter since the word began. -/
inductive LetterCase where
  | none
  | lower
  | upper
deriving DecidableEq, Repr

/-- The case after one more character; characters without case leave it alone. -/
def LetterCase.after (before : LetterCase) (c : Char) : LetterCase :=
  if isLowercase c then .lower else if isUppercase c then .upper else before

/-- **The words of a run.**  A word ends before a capital which follows a small letter (`light|On`), and
before the last of several capitals if a small letter comes next (`HTTP|Server`).  `word` is the word
being read, backwards, and `before` the case of its last cased letter. -/
def wordsOfRun (before : LetterCase) (word : List Char) : List Char → List (List Char)
  | [] => []
  | [c] => [(c :: word).reverse]
  | c :: next :: rest =>
    if before.after c = .lower ∧ isUppercase next then
      (c :: word).reverse :: wordsOfRun .none [] (next :: rest)
    else if before = .upper ∧ isUppercase c ∧ isLowercase next then
      word.reverse :: wordsOfRun .none [c] (next :: rest)
    else
      wordsOfRun (before.after c) (c :: word) (next :: rest)

/-- The longest runs of letters and numbers, empty ones between two separators included. -/
def runs (text : List Char) : List (List Char) :=
  text.splitOnP fun c => !isAlphanumeric c

/-- The words of a text, in order. -/
def words (text : String) : List (List Char) :=
  (runs text.toList).flatMap (wordsOfRun .none [])

end EnumTables.Text
