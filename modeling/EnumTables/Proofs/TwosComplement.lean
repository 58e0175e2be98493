import EnumTables.Proofs.WideArithmetic
import Mathlib.Data.Int.Bitwise

/-!
# Bits of the wide integers

The operators on bits go through words of 128 bits.  On values which fit they are the operators on two's
complement without an end: all bits above the word of such a value are its sign, and so they are of whatever
an operator makes of two such values.

* `getLsbD_ofInt` — a word has the bits of the value it is made of.
* `Wide.fits_bitwise` — what an operator on bits makes of values which fit, fits.
* `Wide.and_eq_land`, `Wide.or_eq_lor`, `Wide.xor_eq_xor` — the operators are those on unbounded integers.
-/

namespace EnumTables.Number

/-- A word has the bits of the value it is made of, as far as it reaches. -/
lemma getLsbD_ofInt {width i : Nat} (a : Int) (h : i < width) :
    (BitVec.ofInt width a).getLsbD i = a.testBit i := by
  cases a with
  | ofNat m =>
      rw [Int.ofNat_eq_natCast, BitVec.ofInt_natCast, BitVec.getLsbD_ofNat]
      simp only [h, decide_true, Bool.true_and]
      rfl
  | negSucc m =>
      rw [BitVec.ofInt_negSucc_eq_not_ofNat, BitVec.getLsbD_not, BitVec.getLsbD_ofNat]
      simp only [h, decide_true, Bool.true_and]
      rfl

namespace Wide

variable {a b : Int}

lemma fits_ofNat_iff {m : Nat} : Fits (.ofNat m) ↔ m < 2 ^ 127 := by
  rw [fits_iff, Int.ofNat_eq_natCast]
  omega

lemma fits_negSucc_iff {m : Nat} : Fits (.negSucc m) ↔ m < 2 ^ 127 := by
  rw [fits_iff, Int.negSucc_eq]
  omega

lemma fits_natBitwise (f : Bool → Bool → Bool) {m n : Nat} (hm : m < 2 ^ 127) (hn : n < 2 ^ 127) :
    Fits (Int.natBitwise f m n) := by
  unfold Int.natBitwise
  cases f false false
  · exact fits_ofNat_iff.mpr (Nat.bitwise_lt_two_pow hm hn)
  · exact fits_negSucc_iff.mpr (Nat.bitwise_lt_two_pow hm hn)

/-- **What an operator on bits makes of values which fit, fits**, since it says what becomes of the sign. -/
lemma fits_bitwise (f : Bool → Bool → Bool) (ha : Fits a) (hb : Fits b) : Fits (Int.bitwise f a b) := by
  cases a with
  | ofNat m =>
      rw [fits_ofNat_iff] at ha
      cases b with
      | ofNat n => exact fits_natBitwise f ha (fits_ofNat_iff.mp hb)
      | negSucc n => exact fits_natBitwise (fun x y => f x !y) ha (fits_negSucc_iff.mp hb)
  | negSucc m =>
      rw [fits_negSucc_iff] at ha
      cases b with
      | ofNat n => exact fits_natBitwise (fun x y => f (!x) y) ha (fits_ofNat_iff.mp hb)
      | negSucc n => exact fits_natBitwise (fun x y => f (!x) !y) ha (fits_negSucc_iff.mp hb)

/-- A word whose bits an operator makes of two values which fit says what the operator makes of them. -/
lemma toInt_eq_bitwise {f : Bool → Bool → Bool} {w : BitVec 128} (ha : Fits a) (hb : Fits b)
    (hw : ∀ i, w.getLsbD i = f ((word a).getLsbD i) ((word b).getLsbD i)) :
    w.toInt = Int.bitwise f a b := by
  have hword : w = word (Int.bitwise f a b) := by
    refine BitVec.eq_of_getLsbD_eq fun i hi => ?_
    rw [hw, word, word, word, getLsbD_ofInt a hi, getLsbD_ofInt b hi, getLsbD_ofInt _ hi,
      Int.testBit_bitwise]
  rw [hword, toInt_word (fits_bitwise f ha hb)]

/-- **`&` is that of two's complement without an end.** -/
theorem and_eq_land (ha : Fits a) (hb : Fits b) : and a b = Int.land a b :=
  (toInt_eq_bitwise ha hb fun _ => BitVec.getLsbD_and).trans (by rw [Int.bitwise_and])

/-- **`|` is that of two's complement without an end.** -/
theorem or_eq_lor (ha : Fits a) (hb : Fits b) : or a b = Int.lor a b :=
  (toInt_eq_bitwise ha hb fun _ => BitVec.getLsbD_or).trans (by rw [Int.bitwise_or])

/-- **`^` is that of two's complement without an end.** -/
theorem xor_eq_xor (ha : Fits a) (hb : Fits b) : xor a b = Int.xor a b :=
  (toInt_eq_bitwise ha hb fun _ => BitVec.getLsbD_xor).trans (by rw [Int.bitwise_xor])

end Wide

end EnumTables.Number
