import EnumTables.Companion.Code
import Mathlib.Data.List.Basic

/-!
# Values are read from their literals

A companion writes a value as digits, with the type as a suffix.  What is read from such a text is the
value again.

* `magnitude?_digits` — the digits of a number, read in front of whatever follows them.
* `ofText_literal` — the literal of a magnitude and a type.
-/

namespace EnumTables.Token

open EnumTables.Number

/-! ## Digits -/

lemma digitValue?_of_isDigit {c : Char} (h : c.isDigit = true) :
    digitValue? c = some (c.toNat - '0'.toNat) :=
  if_pos h

lemma toNat_sub_lt_ten {c : Char} (h : c.isDigit = true) : c.toNat - 48 < 10 := by
  have hle : c.toNat ≤ 57 := by
    simp only [Char.isDigit, Bool.and_eq_true, decide_eq_true_eq] at h
    exact h.2
  omega

/-- A digit is none of the characters which have a meaning of their own in a number. -/
lemma ne_of_isDigit {c d : Char} (h : c.isDigit = true) (hd : d.isDigit = false) : c ≠ d := by
  rintro rfl
  simp [h] at hd

/-- **Digits are read one by one**, as they are by the library. -/
lemma magnitude?_digits {digits : List Char} (hdigits : ∀ c ∈ digits, c.isDigit = true) (value : Nat)
    (seen : Bool) (rest : List Char) :
    magnitude? 10 value seen (digits ++ rest) =
      magnitude? 10 (Nat.ofDigitChars 10 digits value) (seen || !digits.isEmpty) rest := by
  induction digits generalizing value seen with
  | nil => simp
  | cons c digits ih =>
      obtain ⟨hc, hdigits⟩ := List.forall_mem_cons.mp hdigits
      have hstep : magnitude? 10 value seen (c :: (digits ++ rest)) =
          magnitude? 10 (10 * value + (c.toNat - '0'.toNat)) true (digits ++ rest) := by
        simp [magnitude?, ne_of_isDigit hc (d := '_') rfl, ne_of_isDigit hc (d := '.') rfl,
          ne_of_isDigit hc (d := 'e') rfl, ne_of_isDigit hc (d := 'E') rfl, digitValue?_of_isDigit hc, hc,
          toNat_sub_lt_ten hc]
      rw [List.cons_append, hstep, ih hdigits, Nat.ofDigitChars_cons]
      simp

/-! ## Literals -/

lemma isIdentifier_label (type : Primitive) : isIdentifier type.label.toList = true := by
  cases type <;> rfl

lemma magnitude?_label (value : Nat) (type : Primitive) :
    magnitude? 10 value true type.label.toList = some (value, type.label.toList) := by
  cases type <;> rfl

/-- No base is announced by digits and the name of a type: its letter is a digit or begins the name. -/
lemma baseOf_digits {digits : List Char} (hdigits : ∀ c ∈ digits, c.isDigit = true) (type : Primitive) :
    baseOf (digits ++ type.label.toList) = (10, 0) := by
  rcases digits with _ | ⟨c, _ | ⟨d, digits⟩⟩
  · cases type <;> rfl
  · cases type <;> simp [baseOf, startsWith, Primitive.label]
  · have hd : d.isDigit = true := hdigits d (by simp)
    simp [baseOf, startsWith, (ne_of_isDigit hd (d := 'x') rfl).symm,
      (ne_of_isDigit hd (d := 'o') rfl).symm, (ne_of_isDigit hd (d := 'b') rfl).symm]

/-- A text of digits and the name of a type is an integer. -/
lemma ofText_of_digits {text : String} {c : Char} {digits : List Char} {type : Primitive}
    (hdigits : ∀ d ∈ c :: digits, d.isDigit = true)
    (htext : text.toList = (c :: digits) ++ type.label.toList) :
    LiteralKind.ofText text = .integer ⟨Nat.ofDigitChars 10 (c :: digits) 0, type.label⟩ := by
  have hc : c.isDigit = true := hdigits c (List.mem_cons_self ..)
  have hread : magnitude? 10 0 false (c :: (digits ++ type.label.toList)) =
      some (Nat.ofDigitChars 10 (c :: digits) 0, type.label.toList) := by
    rw [← List.cons_append, magnitude?_digits hdigits, ← magnitude?_label]
    rfl
  have hinteger : IntegerLiteral.ofText? text =
      some ⟨Nat.ofDigitChars 10 (c :: digits) 0, type.label⟩ := by
    rw [IntegerLiteral.ofText?, htext, baseOf_digits hdigits]
    simp only [List.drop_zero, hread, List.cons_append, List.head?_cons, Option.any_some, hc,
      isIdentifier_label, Bool.not_true, Bool.false_eq_true, if_false, Bool.or_true, if_true,
      Option.bind_eq_bind, Option.bind_some, String.ofList_toList]
  rw [LiteralKind.ofText, htext, List.cons_append]
  simp [ne_of_isDigit hc (d := '"') rfl, ne_of_isDigit hc (d := 'r') rfl, hc, hinteger]

/-- The text of a magnitude and a type: digits, which say the magnitude, and the name of the type. -/
lemma exists_digits (magnitude : Nat) (type : Primitive) :
    ∃ c digits, (∀ d ∈ c :: digits, d.isDigit = true) ∧ Nat.ofDigitChars 10 (c :: digits) 0 = magnitude ∧
      (toString magnitude ++ type.label).toList = (c :: digits) ++ type.label.toList := by
  obtain ⟨c, digits, hc⟩ := List.exists_cons_of_ne_nil (Nat.toDigits_ne_nil (n := magnitude) (b := 10))
  refine ⟨c, digits, ?_, ?_, ?_⟩
  · rw [← hc]
    exact fun d hd => Nat.isDigit_of_mem_toDigits (by decide) (by decide) hd
  · rw [← hc, Nat.ofDigitChars_ten_toDigits]
  · rw [← hc, String.toList_append, Nat.toString_eq_repr, Nat.toList_repr]

/-- **A value is read from its literal**: the magnitude, and the type as the suffix. -/
theorem ofText_literal (magnitude : Nat) (type : Primitive) :
    LiteralKind.ofText (toString magnitude ++ type.label) = .integer ⟨magnitude, type.label⟩ := by
  obtain ⟨c, digits, hdigits, hvalue, htext⟩ := exists_digits magnitude type
  rw [ofText_of_digits hdigits htext, hvalue]

end EnumTables.Token
