import EnumTables.Token.Lexer
import Mathlib.Tactic.Common

/-!
# Texts are read from their literals

A text is written between quotes, with escapes for what would not be seen there.  Read with its escapes
undone, the literal says the text again.

* `Awaited` and `textFrom?` — what a text literal says, character by character.
* `textFrom?_toDigits` — a number of a character is read digit by digit.
* `textFrom?_escapeChar` — one character, however it is written.
* `textOf?_textLiteral` — all of a text.
-/

namespace EnumTables.Token

open EnumTables.Text

/-! ## Reading -/

/-- What comes next in a text literal. -/
inductive Awaited where
  /-- A character, an escape or the end. -/
  | any
  /-- What a backslash stands before. -/
  | escaped
  /-- The digits of a character below 128. -/
  | byte (high : Option Nat)
  /-- The digits of any character, and the brace before them. -/
  | brace
  | number (value : Nat)

/-- The characters which are escaped by a letter or as themselves. -/
def escaped? : Char → Option Char
  | 'n' => some '\n'
  | 'r' => some '\r'
  | 't' => some '\t'
  | '0' => some '\x00'
  | '\\' => some '\\'
  | '\'' => some '\''
  | '"' => some '"'
  | _ => none

/-- **The characters which a text literal says**, from behind its opening quote to the closing one, which has
to be the last character. -/
def textFrom? : Awaited → List Char → Option (List Char)
  | _, [] => none
  | .any, c :: rest =>
    if c = '"' then if rest.isEmpty then some [] else none
    else if c = '\\' then textFrom? .escaped rest
    else (c :: ·) <$> textFrom? .any rest
  | .escaped, c :: rest =>
    if c = 'x' then textFrom? (.byte none) rest
    else if c = 'u' then textFrom? .brace rest
    else do
      let meant ← escaped? c
      (meant :: ·) <$> textFrom? .any rest
  | .byte none, c :: rest => do textFrom? (.byte (some (← digitValue? c))) rest
  | .byte (some high), c :: rest => do
    let value := 16 * high + (← digitValue? c)
    if value < 128 then (Char.ofNat value :: ·) <$> textFrom? .any rest else none
  | .brace, c :: rest => if c = '\x7b' then textFrom? (.number 0) rest else none
  | .number value, c :: rest =>
    if c = '\x7d' then
      if value.isValidChar then (Char.ofNat value :: ·) <$> textFrom? .any rest else none
    else do textFrom? (.number (16 * value + (← digitValue? c))) rest

/-- **What a text literal says.** -/
def textOf? (literal : String) : Option String :=
  match literal.toList with
  | '"' :: rest => String.ofList <$> textFrom? .any rest
  | _ => none

/-! ## What was written -/

variable {c : Char} {rest : List Char}

/-- The digits of a number are read one by one. -/
lemma textFrom?_digitChar {digit value : Nat} (h : digit < 16) :
    textFrom? (.number value) (digit.digitChar :: rest) = textFrom? (.number (16 * value + digit)) rest := by
  have hdigits : ∀ digit < 16, digit.digitChar ≠ '\x7d' ∧ digitValue? digit.digitChar = some digit := by
    decide
  obtain ⟨hbrace, hvalue⟩ := hdigits digit h
  rw [textFrom?, if_neg hbrace, hvalue]
  rfl

lemma textFrom?_toDigits (number : Nat) (rest : List Char) :
    textFrom? (.number 0) (Nat.toDigits 16 number ++ rest) = textFrom? (.number number) rest := by
  induction number using Nat.strongRecOn generalizing rest with
  | ind number ih =>
      by_cases hlt : number < 16
      · rw [Nat.toDigits_of_lt_base hlt, List.singleton_append, textFrom?_digitChar hlt, Nat.mul_zero,
          Nat.zero_add]
      · have hsmaller : number / 16 < number := Nat.div_lt_self (by omega) (by decide)
        have hdigit : number % 16 < 16 := Nat.mod_lt _ (by decide)
        rw [Nat.toDigits_of_base_le (by decide) (by omega), List.append_assoc, ih _ hsmaller,
          List.singleton_append, textFrom?_digitChar hdigit, Nat.div_add_mod]

/-- A character which is written by its number. -/
lemma textFrom?_number (c : Char) (rest : List Char) :
    textFrom? .any (("\\u\x7b" ++ hexDigits c.toNat ++ "\x7d").toList ++ rest) =
      (c :: ·) <$> textFrom? .any rest := by
  have htext : ("\\u\x7b" ++ hexDigits c.toNat ++ "\x7d").toList ++ rest =
      '\\' :: 'u' :: '\x7b' :: (Nat.toDigits 16 c.toNat ++ '\x7d' :: rest) := by
    simp [hexDigits]
  have hopened : ∀ more, textFrom? .any ('\\' :: 'u' :: '\x7b' :: more) = textFrom? (.number 0) more :=
    fun _ => rfl
  have hvalid : c.toNat.isValidChar := c.valid
  rw [htext, hopened, textFrom?_toDigits, textFrom?, if_pos rfl, if_pos hvalid, Char.ofNat_toNat]

/-- **A character is read however it is written.** -/
lemma textFrom?_escapeChar (c : Char) (rest : List Char) :
    textFrom? .any ((escapeChar c).toList ++ rest) = (c :: ·) <$> textFrom? .any rest := by
  unfold escapeChar
  split
  case h_7 hquote hslash _ _ _ _ =>
    by_cases hescaped : isEscaped c = true
    · rw [if_pos hescaped]
      exact textFrom?_number c rest
    · rw [if_neg hescaped, Char.toString, String.toList_singleton, List.singleton_append, textFrom?,
        if_neg hquote, if_neg hslash]
  all_goals rfl

lemma textFrom?_body (text : List Char) (rest : List Char) :
    textFrom? .any ((textLiteral.body text).toList ++ rest) = (text ++ ·) <$> textFrom? .any rest := by
  induction text with
  | nil =>
      change textFrom? .any rest = id <$> textFrom? .any rest
      rw [id_map]
  | cons c more ih =>
      have hcons : (c :: ·) <$> (more ++ ·) <$> textFrom? .any rest =
          ((c :: more) ++ ·) <$> textFrom? .any rest := by
        cases textFrom? .any rest <;> rfl
      have hnul : ∀ behind,
          textFrom? .any ("\\x00".toList ++ behind) = ('\x00' :: ·) <$> textFrom? .any behind := fun _ => rfl
      obtain ⟨octal, hbody⟩ : ∃ octal, textLiteral.body (c :: more) =
          (if c == '\x00' && octal then "\\x00" else escapeChar c) ++ textLiteral.body more :=
        ⟨_, textLiteral.body.eq_def _⟩
      rw [hbody, String.toList_append, List.append_assoc, ← hcons, ← ih]
      split_ifs with hoctal
      · have hc : c = '\x00' := by
          simpa using (Bool.and_eq_true_iff.mp hoctal).1
        rw [hc]
        exact hnul _
      · exact textFrom?_escapeChar c _

/-- **A text is read from its literal.** -/
theorem textOf?_textLiteral (text : String) : textOf? (textLiteral text) = some text := by
  have hquotes : (textLiteral text).toList = '"' :: ((textLiteral.body text.toList).toList ++ ['"']) := by
    simp [textLiteral]
  have hend : textFrom? .any ['"'] = some [] := rfl
  rw [textOf?, hquotes]
  simp only [textFrom?_body, hend, Option.map_eq_map, Option.map_some, List.append_nil, String.ofList_toList]

end EnumTables.Token
