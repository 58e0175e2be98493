import EnumTables.Text.CaseRuns
import EnumTables.Text.CharClass

/-!
# Lower and upper case

The full case maps, from a character to one or more characters, and lower case of a whole text.

* `lowerChar`, `upperChar` — the maps of one character.
* `sigmaIsFinal` — whether a capital sigma at some place ends its word.
* `lowercase` — lower case of a text, in which a final sigma has a shape of its own.
-/

namespace EnumTables.Text

/-! ## One character -/

/-- What the run makes of the code point `n`, if it has a say. -/
def CaseRun.image? (run : CaseRun) (n : Nat) : Option Char :=
  if run.first ≤ n ∧ n ≤ run.last ∧ (n - run.first) % run.step = 0 then
    some (Char.ofNat ((n : Int) + run.shift).toNat)
  else
    none

/-- Maps `c` by the expansions, else by the first run which has a say, else to itself. -/
def mapCase (expansions : Array (Nat × List Nat)) (runs : Array CaseRun) (c : Char) : List Char :=
  match expansions.find? (·.1 == c.toNat) with
  | some entry => entry.2.map Char.ofNat
  | none => [(runs.findSome? (·.image? c.toNat)).getD c]

/-- Lower case of one character. -/
def lowerChar (c : Char) : List Char :=
  if c.toNat < 128 then [c.toLower] else mapCase lowercaseExpansions lowercaseRuns c

/-- Upper case of one character. -/
def upperChar (c : Char) : List Char :=
  if c.toNat < 128 then [c.toUpper] else mapCase uppercaseExpansions uppercaseRuns c

/-! ## A text -/

/-- Whether the first character which may not be passed over has a case. -/
def casedAhead (cs : List Char) : Bool :=
  match cs.dropWhile isCaseIgnorable with
  | [] => false
  | c :: _ => isCased c

/-- A capital sigma is final if a cased letter stands before it and none behind it; `before` is read
backwards. -/
def sigmaIsFinal (before after : List Char) : Bool :=
  casedAhead before && !casedAhead after

/-- Lower case of the characters, with the ones before them given backwards. -/
def lowercaseFrom (before : List Char) : List Char → List Char
  | [] => []
  | c :: rest =>
    let here :=
      if c == 'Σ' then [if sigmaIsFinal before rest then 'ς' else 'σ'] else lowerChar c
    here ++ lowercaseFrom (c :: before) rest

/-- **Lower case of a text.**  Each character by itself, except that a capital sigma which ends a word
becomes the final one. -/
def lowercase (text : String) : String :=
  String.ofList (lowercaseFrom [] text.toList)

end EnumTables.Text
