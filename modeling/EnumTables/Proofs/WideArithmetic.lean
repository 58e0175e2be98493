import EnumTables.Number.Primitive
import Mathlib.Data.Int.ModEq

/-!
# Exactness of the wide integers

The operations of `Number.Wide` go through words of 128 bits.  On values which fit they are the operations
of unbounded integers, refused where the result does not fit.

* `Wide.Fits` — a value has 128 bits; `Wide.toInt_word` says that its word then loses nothing.
* `Wide.fits_tdiv_iff` — only one quotient of values which fit does not fit.
* `Wide.shl?_eq_some_iff`, `Wide.shr?_eq_some_iff` — shifts multiply by a power of two, and divide by one.
* `Primitive.word`, `Primitive.ofWord` — the word of a value at the width of a primitive, and back.
* `ofInt_eq_ofInt_iff` — equal words are equal values modulo two to the width.
* `Primitive.wrap_eq_ofWord` — a cast keeps the word of the target's width and reads it as the target does.
* `Primitive.wrap_eq_residue` — it gives the representative in the range of the target.
-/

namespace EnumTables.Number

lemma twoPow_eq (n : Nat) : twoPow n = 2 ^ n := by
  rw [twoPow, Nat.pow_eq]
  push_cast
  rfl

/-- A word which is shifted to the left stands for the product with a power of two. -/
lemma ofInt_shiftLeft {width : Nat} (a : Int) (n : Nat) :
    BitVec.ofInt width a <<< n = BitVec.ofInt width (a * 2 ^ n) := by
  rw [BitVec.ofInt_mul, BitVec.shiftLeft_eq_mul_twoPow]
  congr 1
  rw [← BitVec.toNat_inj, BitVec.toNat_twoPow]
  norm_cast

/-! ## Values which fit -/

namespace Wide

/-- A value has 128 bits. -/
def Fits (value : Int) : Prop := least ≤ value ∧ value ≤ greatest

instance (value : Int) : Decidable (Fits value) := inferInstanceAs (Decidable (_ ∧ _))

lemma fits_iff {value : Int} : Fits value ↔ -(2 ^ 127) ≤ value ∧ value < 2 ^ 127 := by
  simp only [Fits, least, greatest, twoPow_eq]
  omega

lemma fit?_eq_some_iff {value result : Int} :
    fit? value = some result ↔ Fits value ∧ result = value := by
  unfold fit? Fits
  split_ifs with h
  · simp only [h, Option.some.injEq, and_self, true_and, eq_comm]
  · simp only [h, false_and]

/-- A value which fits is what its word says. -/
lemma toInt_word {value : Int} (h : Fits value) : (word value).toInt = value := by
  rw [fits_iff] at h
  exact BitVec.toInt_ofInt_eq_self (by decide) h.1 h.2

lemma fits_toInt (w : BitVec 128) : Fits w.toInt :=
  fits_iff.mpr ⟨BitVec.le_toInt w, BitVec.toInt_lt⟩

lemma fits_and (a b : Int) : Fits (and a b) := fits_toInt _

lemma fits_or (a b : Int) : Fits (or a b) := fits_toInt _

lemma fits_xor (a b : Int) : Fits (xor a b) := fits_toInt _

/-! ## Quotients and remainders -/

lemma isSome_div?_iff {a b : Int} : (div? a b).isSome ↔ Fits (a.tdiv b) := by
  simp only [Option.isSome_iff_exists, div?, fit?_eq_some_iff, exists_and_left, exists_eq, and_true]

lemma rem?_eq_some_iff {a b result : Int} :
    rem? a b = some result ↔ Fits (a.tdiv b) ∧ result = a.tmod b := by
  rw [← isSome_div?_iff, rem?]
  split_ifs with h
  · simp only [h, Option.some.injEq, true_and, eq_comm]
  · simp only [h, Bool.false_eq_true, false_and]

/-- Only one quotient of values which fit does not fit itself. -/
lemma fits_tdiv_iff {a b : Int} (ha : Fits a) :
    Fits (a.tdiv b) ↔ ¬ (a = least ∧ b = -1) := by
  have habs : (a.tdiv b).natAbs = a.natAbs / b.natAbs := Int.natAbs_tdiv a b
  have hle : a.natAbs / b.natAbs ≤ a.natAbs := Nat.div_le_self _ _
  rw [fits_iff] at ha ⊢
  rw [least, twoPow_eq]
  constructor
  · rintro hfits ⟨rfl, rfl⟩
    rw [Int.tdiv_neg, Int.tdiv_one] at hfits
    omega
  · intro hne
    -- a quotient which does not fit is the least value divided by one or by minus one
    by_contra hbig
    have hleast : a.natAbs = 2 ^ 127 := by omega
    have hone : b.natAbs = 1 := by
      have hsame : a.natAbs / b.natAbs = a.natAbs := by omega
      exact (Nat.div_eq_self.mp hsame).resolve_left (by omega)
    rcases Int.natAbs_eq_iff.mp hone with rfl | rfl
    · rw [Int.ofNat_one, Int.tdiv_one] at hbig
      omega
    · exact hne ⟨by omega, rfl⟩

/-- A remainder lies between zero and the dividend. -/
lemma tmod_between (a b : Int) :
    (0 ≤ a ∧ 0 ≤ a.tmod b ∧ a.tmod b ≤ a) ∨ (a ≤ 0 ∧ a ≤ a.tmod b ∧ a.tmod b ≤ 0) := by
  have hle : (a.tmod b).natAbs ≤ a.natAbs := by
    rw [Int.natAbs_tmod]
    exact Nat.mod_le _ _
  have hsign : 0 ≤ a → 0 ≤ a.tmod b := Int.tmod_nonneg b
  have hsign' : a ≤ 0 → a.tmod b ≤ 0 := fun ha => by
    have := Int.tmod_nonneg b (a := -a) (by omega)
    rw [Int.neg_tmod] at this
    omega
  omega

lemma fits_tmod {a : Int} (b : Int) (h : Fits a) : Fits (a.tmod b) := by
  have hbetween := tmod_between a b
  rw [fits_iff] at h ⊢
  omega

/-! ## Shifts -/

lemma amount?_eq_some_iff {places : Int} {n : Nat} :
    amount? places = some n ↔ (0 ≤ places ∧ places < 128) ∧ n = places.toNat := by
  unfold amount?
  split_ifs with h
  · simp only [h, Option.some.injEq, and_self, true_and, eq_comm]
  · simp only [h, false_and]

lemma toInt_sshiftRight_word {a : Int} (n : Nat) (h : Fits a) :
    ((word a).sshiftRight n).toInt = a / 2 ^ n := by
  rw [BitVec.toInt_sshiftRight, toInt_word h, Int.shiftRight_eq_div_pow]
  push_cast
  rfl

/-- The quotient of a value which fits by a power of two fits. -/
lemma fits_div_pow {a : Int} (n : Nat) (h : Fits a) : Fits (a / 2 ^ n) :=
  toInt_sshiftRight_word n h ▸ fits_toInt _

/-- **Shifting to the right is division by a power of two**, rounded down. -/
lemma shr?_eq_some_iff {a places result : Int} (h : Fits a) :
    shr? a places = some result ↔
      (0 ≤ places ∧ places < 128) ∧ result = a / 2 ^ places.toNat := by
  simp only [shr?, Option.bind_eq_bind, Option.bind_eq_some_iff, amount?_eq_some_iff,
    toInt_sshiftRight_word _ h, Option.some.injEq]
  constructor
  · rintro ⟨n, ⟨hp, rfl⟩, rfl⟩
    exact ⟨hp, rfl⟩
  · rintro ⟨hp, rfl⟩
    exact ⟨_, ⟨hp, rfl⟩, rfl⟩

lemma word_shiftLeft (a : Int) (n : Nat) : word a <<< n = word (a * 2 ^ n) := ofInt_shiftLeft a n

/-- A power of two which divides a value divides what the word of the value says. -/
lemma pow_dvd_toInt_word (a : Int) {n : Nat} (hn : n ≤ 128) :
    (2 ^ n : Int) ∣ (word (a * 2 ^ n)).toInt := by
  have hdvd : (2 ^ n : Int) ∣ (2 ^ 128 : Nat) := by
    push_cast
    exact pow_dvd_pow 2 hn
  rw [word, BitVec.toInt_ofInt]
  apply Int.dvd_of_emod_eq_zero
  rw [← Int.emod_emod_of_dvd _ hdvd, Int.bmod_emod, Int.emod_emod_of_dvd _ hdvd]
  exact Int.mul_emod_left a _

/-- Shifting back finds out whether a bit was lost. -/
lemma shiftBack_eq_iff {a : Int} {n : Nat} (hn : n ≤ 128) :
    ((word a <<< n).sshiftRight n).toInt = a ↔ Fits (a * 2 ^ n) := by
  have hpos : (2 ^ n : Int) ≠ 0 := pow_ne_zero n two_ne_zero
  have hcast : ((2 ^ n : Nat) : Int) = 2 ^ n := by push_cast; rfl
  rw [BitVec.toInt_sshiftRight, word_shiftLeft, Int.shiftRight_eq_div_pow, hcast]
  constructor
  · intro hback
    have hsame := Int.ediv_mul_cancel (pow_dvd_toInt_word a hn)
    rw [hback] at hsame
    exact hsame ▸ fits_toInt _
  · intro hfits
    rw [toInt_word hfits, Int.mul_ediv_cancel _ hpos]

/-- **Shifting to the left is multiplication by a power of two**, as far as the product fits. -/
lemma shl?_eq_some_iff {a places result : Int} :
    shl? a places = some result ↔
      (0 ≤ places ∧ places < 128) ∧ Fits (a * 2 ^ places.toNat) ∧ result = a * 2 ^ places.toNat := by
  simp only [shl?, Option.bind_eq_bind, Option.bind_eq_some_iff, amount?_eq_some_iff]
  constructor
  · rintro ⟨n, ⟨hp, rfl⟩, hshift⟩
    split_ifs at hshift with hback
    rw [shiftBack_eq_iff (by omega)] at hback
    rw [word_shiftLeft, toInt_word hback, Option.some.injEq] at hshift
    exact ⟨hp, hback, hshift.symm⟩
  · rintro ⟨hp, hfits, rfl⟩
    refine ⟨_, ⟨hp, rfl⟩, ?_⟩
    rw [if_pos ((shiftBack_eq_iff (by omega)).mpr hfits), word_shiftLeft, toInt_word hfits]

end Wide

/-! ## Words of the primitives -/

/-- A word which is cut to fewer bits. -/
lemma setWidth_ofInt {m n : Nat} (h : n ≤ m) (a : Int) :
    (BitVec.ofInt m a).setWidth n = BitVec.ofInt n a := by
  rw [← BitVec.signExtend_eq_setWidth_of_le _ h, BitVec.signExtend, BitVec.toInt_ofInt,
    ← BitVec.toInt_inj, BitVec.toInt_ofInt, BitVec.toInt_ofInt]
  exact Int.bmod_bmod_of_dvd (pow_dvd_pow 2 h)

/-- **Words are values modulo two to the width.** -/
lemma ofInt_eq_ofInt_iff {width : Nat} {a b : Int} :
    BitVec.ofInt width a = BitVec.ofInt width b ↔ a ≡ b [ZMOD 2 ^ width] := by
  have hcast : ((2 ^ width : Nat) : Int) = 2 ^ width := by push_cast; rfl
  rw [← BitVec.toNat_inj, BitVec.toNat_ofInt, BitVec.toNat_ofInt, hcast, Int.ModEq]
  have hpos : (0 : Int) < 2 ^ width := Int.pow_pos (by decide)
  have ha := Int.emod_nonneg a hpos.ne'
  have hb := Int.emod_nonneg b hpos.ne'
  omega

namespace Primitive

/-- The word of a value at the width of the type. -/
def word (p : Primitive) (value : Int) : BitVec p.bits := BitVec.ofInt p.bits value

/-- What a word says: its upper half stands for negative values if the type is signed. -/
def ofWord (p : Primitive) (w : BitVec p.bits) : Int :=
  if p.isSigned then w.toInt else w.toNat

lemma bits_pos (p : Primitive) : 0 < p.bits := by
  cases p <;> decide

lemma bits_le (p : Primitive) : p.bits ≤ 64 := by
  cases p <;> decide

lemma ofLabel?_eq_some_iff {label : String} {p : Primitive} :
    ofLabel? label = some p ↔ label = p.label := by
  constructor
  · intro h
    have hlabel := List.find?_some h
    exact (beq_iff_eq.mp hlabel).symm
  · rintro rfl
    exact ofLabel?_label p

lemma holds_iff {p : Primitive} {value : Int} :
    p.holds value = true ↔ p.least ≤ value ∧ value ≤ p.greatest := by
  simp only [holds, Bool.and_eq_true, decide_eq_true_eq]

lemma holds_least (p : Primitive) : p.holds p.least = true := by
  cases p <;> decide

lemma holds_greatest (p : Primitive) : p.holds p.greatest = true := by
  cases p <;> decide

/-- Every value of a primitive has 128 bits. -/
lemma fits_of_holds {p : Primitive} {value : Int} (h : p.holds value = true) : Wide.Fits value := by
  rw [holds_iff] at h
  rw [Wide.fits_iff]
  cases p <;> simp [least, greatest, isSigned, bits, twoPow_eq] at h <;> omega

lemma holds_ofWord (p : Primitive) (w : BitVec p.bits) : p.holds (p.ofWord w) = true := by
  rw [holds_iff]
  unfold ofWord least greatest
  rw [twoPow_eq, twoPow_eq]
  split_ifs with hs
  · exact ⟨BitVec.le_toInt w, BitVec.toInt_le⟩
  · have := w.isLt
    refine ⟨by omega, ?_⟩
    have hcast : ((2 ^ p.bits : Nat) : Int) = 2 ^ p.bits := by push_cast; rfl
    omega

lemma word_ofWord (p : Primitive) (w : BitVec p.bits) : p.word (p.ofWord w) = w := by
  unfold word ofWord
  split_ifs
  · exact BitVec.ofInt_toInt
  · rw [BitVec.ofInt_natCast, BitVec.ofNat_toNat, BitVec.setWidth_eq]

/-- A value of the type is what its word says. -/
lemma ofWord_word {p : Primitive} {value : Int} (h : p.holds value = true) :
    p.ofWord (p.word value) = value := by
  rw [holds_iff] at h
  unfold ofWord word
  unfold least greatest at h
  rw [twoPow_eq, twoPow_eq] at h
  split_ifs at h ⊢ with hs
  · exact BitVec.toInt_ofInt_eq_self p.bits_pos h.1 (by omega)
  · have hcast : ((2 ^ p.bits : Nat) : Int) = 2 ^ p.bits := by push_cast; rfl
    rw [BitVec.toNat_ofInt, hcast, Int.emod_eq_of_lt h.1 (by omega), Int.toNat_of_nonneg h.1]

/-- Words are values modulo two to the width. -/
lemma word_eq_iff {p : Primitive} {a b : Int} : p.word a = p.word b ↔ a ≡ b [ZMOD 2 ^ p.bits] :=
  ofInt_eq_ofInt_iff

/-- Two values of one type with the same word are the same. -/
lemma eq_of_word_eq {p : Primitive} {a b : Int} (ha : p.holds a = true) (hb : p.holds b = true)
    (h : p.word a = p.word b) : a = b := by
  rw [← ofWord_word ha, ← ofWord_word hb, h]

/-- Two values of one type which agree in the bits of the type are the same. -/
lemma eq_of_modEq {p : Primitive} {a b : Int} (ha : p.holds a = true) (hb : p.holds b = true)
    (h : a ≡ b [ZMOD 2 ^ p.bits]) : a = b :=
  eq_of_word_eq ha hb (word_eq_iff.mpr h)

/-! ## Casts -/

/-- The mask of a cast keeps the word of the type's width. -/
lemma and_mask (p : Primitive) (value : Int) :
    Wide.and value (2 ^ p.bits - 1) = ((p.word value).toNat : Int) := by
  have hbits := p.bits_le
  have hpow : 2 ^ p.bits ≤ 2 ^ 64 := Nat.pow_le_pow_right (by decide) hbits
  have hmask : (Wide.word (2 ^ p.bits - 1)).toNat = 2 ^ p.bits - 1 := by
    have hcast : (2 ^ p.bits - 1 : Int) = ((2 ^ p.bits - 1 : Nat) : Int) := by
      rw [Nat.cast_sub Nat.one_le_two_pow]
      push_cast
      rfl
    rw [hcast, Wide.word, BitVec.ofInt_natCast, BitVec.toNat_ofNat]
    exact Nat.mod_eq_of_lt (by omega)
  have hkept : (Wide.word value &&& Wide.word (2 ^ p.bits - 1)).toNat = (p.word value).toNat := by
    rw [BitVec.toNat_and, hmask, Nat.and_two_pow_sub_one_eq_mod, ← BitVec.toNat_setWidth, Wide.word,
      setWidth_ofInt (by omega), word]
  have hlt := (p.word value).isLt
  rw [Wide.and, BitVec.toInt_eq_toNat_of_lt (by omega), hkept]

/-- **A cast keeps the word of the type's width**, and reads it as the type does. -/
lemma wrap_eq_ofWord (p : Primitive) (value : Int) : p.wrap value = p.ofWord (p.word value) := by
  have hhalf : (2 : Int) * 2 ^ (p.bits - 1) = 2 ^ p.bits := by
    rw [← pow_succ', Nat.sub_add_cancel p.bits_pos]
  have hcast : ((2 ^ p.bits : Nat) : Int) = 2 ^ p.bits := by push_cast; rfl
  cases hs : p.isSigned
  · simp only [wrap, twoPow_eq, and_mask, ofWord, hs, Bool.false_and, Bool.false_eq_true, if_false]
  · simp only [wrap, and_mask, twoPow_eq, ofWord, hs, Bool.true_and, decide_eq_true_eq, if_true,
      BitVec.toInt_eq_toNat_cond]
    split_ifs <;> omega

lemma holds_wrap (p : Primitive) (value : Int) : p.holds (p.wrap value) = true := by
  rw [wrap_eq_ofWord]
  exact p.holds_ofWord _

lemma wrap_modEq (p : Primitive) (value : Int) : p.wrap value ≡ value [ZMOD 2 ^ p.bits] := by
  rw [wrap_eq_ofWord, ← word_eq_iff, word_ofWord]

/-- A cast is the one value of the type which equals its operand modulo two to the width. -/
lemma eq_wrap_of_modEq {p : Primitive} {value result : Int} (hr : p.holds result = true)
    (h : result ≡ value [ZMOD 2 ^ p.bits]) : result = p.wrap value :=
  eq_of_modEq hr (p.holds_wrap value) (h.trans (p.wrap_modEq value).symm)

/-- **The representative of a value in the range of the type**, modulo two to the width. -/
def residue (p : Primitive) (value : Int) : Int :=
  if p.isSigned then value.bmod (2 ^ p.bits) else value % 2 ^ p.bits

/-- A cast gives the representative. -/
lemma wrap_eq_residue (p : Primitive) (value : Int) : p.wrap value = p.residue value := by
  rw [wrap_eq_ofWord, ofWord, residue, word]
  split_ifs
  · rw [BitVec.toInt_ofInt]
  · have hpos : (0 : Int) < 2 ^ p.bits := Int.pow_pos (by decide)
    rw [BitVec.toNat_ofInt, Int.toNat_of_nonneg (Int.emod_nonneg _ (by exact_mod_cast hpos.ne'))]
    push_cast
    rfl

end Primitive

end EnumTables.Number
