import EnumTables.Proofs.WideArithmetic

/-!
# Arithmetic at the width of a primitive

What the operators do to values of a primitive, with words of the primitive's own width, and how this
relates to the words of 128 bits.

* `bitAnd`, `bitOr`, `bitXor` — bit by bit.
* `shiftLeft`, `shiftRight` — shifts; to the left, bits are lost at the upper end.
* `wideAnd_eq`, `wideOr_eq`, `wideXor_eq` — on values of the primitive, the wide operators agree.
* `Wide.and_modEq` and its like — the wide operators pass on that their operands agree in the lowest bits.
* `Wide.and_eq_of_modEq` — a mask cuts off all other bits.
* `mul_pow_modEq`, `ediv_pow_modEq` — shifts move the bits in which values agree.
-/

namespace EnumTables.Number

/-! ## The lowest bits of wide words -/

namespace Wide

variable {a a' b b' : Int} {bits : Nat}

/-- Values which agree in their lowest bits have words which do. -/
lemma setWidth_word_eq (h : a' ≡ a [ZMOD 2 ^ bits]) :
    (word a').setWidth bits = (word a).setWidth bits := by
  rcases le_total bits 128 with hle | hle
  · rw [word, word, setWidth_ofInt hle, setWidth_ofInt hle, ofInt_eq_ofInt_iff]
    exact h
  · have hword : word a' = word a := ofInt_eq_ofInt_iff.mpr (h.of_dvd (pow_dvd_pow 2 hle))
    rw [hword]

/-- Words which agree in their lowest bits say values which do. -/
lemma toInt_modEq {v w : BitVec 128} (h : v.setWidth bits = w.setWidth bits) :
    v.toInt ≡ w.toInt [ZMOD 2 ^ bits] := by
  rcases le_total bits 128 with hle | hle
  · rw [← ofInt_eq_ofInt_iff, ← setWidth_ofInt hle, ← setWidth_ofInt hle, BitVec.ofInt_toInt,
      BitVec.ofInt_toInt, h]
  · have hword : v = w := by
      rw [← BitVec.setWidth_eq v, ← BitVec.setWidth_eq w, ← BitVec.setWidth_setWidth_of_le v hle,
        ← BitVec.setWidth_setWidth_of_le w hle, h]
    rw [hword]

/-- **Operators on bits pass on that their operands agree** in the lowest bits. -/
lemma and_modEq (ha : a' ≡ a [ZMOD 2 ^ bits]) (hb : b' ≡ b [ZMOD 2 ^ bits]) :
    and a' b' ≡ and a b [ZMOD 2 ^ bits] := by
  refine toInt_modEq ?_
  rw [BitVec.setWidth_and, BitVec.setWidth_and, setWidth_word_eq ha, setWidth_word_eq hb]

lemma or_modEq (ha : a' ≡ a [ZMOD 2 ^ bits]) (hb : b' ≡ b [ZMOD 2 ^ bits]) :
    or a' b' ≡ or a b [ZMOD 2 ^ bits] := by
  refine toInt_modEq ?_
  rw [BitVec.setWidth_or, BitVec.setWidth_or, setWidth_word_eq ha, setWidth_word_eq hb]

lemma xor_modEq (ha : a' ≡ a [ZMOD 2 ^ bits]) (hb : b' ≡ b [ZMOD 2 ^ bits]) :
    xor a' b' ≡ xor a b [ZMOD 2 ^ bits] := by
  refine toInt_modEq ?_
  rw [BitVec.setWidth_xor, BitVec.setWidth_xor, setWidth_word_eq ha, setWidth_word_eq hb]

lemma and_comm (a b : Int) : and a b = and b a := by
  rw [and, and, BitVec.and_comm]

/-- A mask which is not negative bounds what it masks. -/
lemma and_between (a : Int) (hf : Fits b) (hb : 0 ≤ b) : 0 ≤ and a b ∧ and a b ≤ b := by
  rw [fits_iff] at hf
  have hmask : ((word b).toNat : Int) = b := by
    rw [word, BitVec.toNat_ofInt]
    omega
  have hle : (word a &&& word b).toNat ≤ (word b).toNat := by
    rw [BitVec.toNat_and]
    exact Nat.and_le_right
  rw [and, BitVec.toInt_eq_toNat_of_lt (by omega)]
  omega

/-- **A mask cuts off all other bits**: what it is put on has to agree in those only which it reaches. -/
lemma and_eq_of_modEq (hf : Fits b) (hn : 0 ≤ b) (hlt : b < 2 ^ bits) (h : a' ≡ a [ZMOD 2 ^ bits]) :
    and a' b = and a b := by
  have hbetween := and_between a hf hn
  have hbetween' := and_between a' hf hn
  have hmod : and a' b % 2 ^ bits = and a b % 2 ^ bits := and_modEq h rfl
  rwa [Int.emod_eq_of_lt hbetween'.1 (hbetween'.2.trans_lt hlt),
    Int.emod_eq_of_lt hbetween.1 (hbetween.2.trans_lt hlt)] at hmod

end Wide

/-- A shift to the left moves the bits in which values agree up. -/
lemma mul_pow_modEq {a a' : Int} {bits : Nat} (places : Nat) (h : a' ≡ a [ZMOD 2 ^ bits]) :
    a' * 2 ^ places ≡ a * 2 ^ places [ZMOD 2 ^ (bits + places)] := by
  rw [pow_add]
  exact h.mul_right'

/-- A shift to the right moves them down. -/
lemma ediv_pow_modEq {a a' : Int} {bits : Nat} (places : Nat) (h : a' ≡ a [ZMOD 2 ^ bits]) :
    a' / 2 ^ places ≡ a / 2 ^ places [ZMOD 2 ^ (bits - places)] := by
  rcases le_total places bits with hle | hle
  · obtain ⟨t, rfl⟩ := Int.modEq_iff_add_fac.mp h
    rw [← Nat.add_sub_of_le hle, pow_add, mul_assoc,
      Int.add_mul_ediv_left _ _ (Int.pow_pos (by decide)).ne', Nat.add_sub_cancel_left]
    exact Int.modEq_add_fac_self.symm
  · rw [Nat.sub_eq_zero_of_le hle, pow_zero]
    exact Int.modEq_one

namespace Primitive

variable {p : Primitive} {a b : Int}

/-! ## Operators -/

def bitAnd (p : Primitive) (a b : Int) : Int := p.ofWord (p.word a &&& p.word b)

def bitOr (p : Primitive) (a b : Int) : Int := p.ofWord (p.word a ||| p.word b)

def bitXor (p : Primitive) (a b : Int) : Int := p.ofWord (p.word a ^^^ p.word b)

/-- A shift to the left, which keeps the bits that have room at the width of the type. -/
def shiftLeft (p : Primitive) (a : Int) (places : Nat) : Int := p.ofWord (p.word a <<< places)

/-- A shift to the right, which repeats the sign if the type has one. -/
def shiftRight (p : Primitive) (a : Int) (places : Nat) : Int :=
  p.ofWord (if p.isSigned then (p.word a).sshiftRight places else p.word a >>> places)

lemma least_le_zero (p : Primitive) : p.least ≤ 0 := by
  cases p <;> decide

lemma zero_le_greatest (p : Primitive) : 0 ≤ p.greatest := by
  cases p <;> decide

/-- A type has the remainders of its values. -/
lemma holds_tmod (b : Int) (h : p.holds a = true) : p.holds (a.tmod b) = true := by
  have hbetween := Wide.tmod_between a b
  have hleast := p.least_le_zero
  have hgreatest := p.zero_le_greatest
  rw [holds_iff] at h ⊢
  omega

/-! ## Words which are extended -/

/-- The word of 128 bits which says what a word says to the type. -/
def extend (p : Primitive) (w : BitVec p.bits) : BitVec 128 :=
  if p.isSigned then w.signExtend 128 else w.setWidth 128

lemma toInt_extend (w : BitVec p.bits) : (p.extend w).toInt = p.ofWord w := by
  have hbits := p.bits_le
  unfold extend ofWord
  split_ifs
  · exact BitVec.toInt_signExtend_of_le (by omega)
  · have hlt := w.isLt
    have hpow : 2 ^ p.bits ≤ 2 ^ 64 := Nat.pow_le_pow_right (by decide) hbits
    have hnat : (w.setWidth 128).toNat = w.toNat := by
      rw [BitVec.toNat_setWidth]
      exact Nat.mod_eq_of_lt (by omega)
    rw [BitVec.toInt_eq_toNat_of_lt (by omega), hnat]

lemma wideWord_ofWord (w : BitVec p.bits) : Wide.word (p.ofWord w) = p.extend w := by
  rw [← toInt_extend, Wide.word, BitVec.ofInt_toInt]

lemma extend_and (v w : BitVec p.bits) : p.extend (v &&& w) = p.extend v &&& p.extend w := by
  unfold extend
  split_ifs
  · exact BitVec.signExtend_and
  · exact BitVec.setWidth_and

lemma extend_or (v w : BitVec p.bits) : p.extend (v ||| w) = p.extend v ||| p.extend w := by
  unfold extend
  split_ifs
  · exact BitVec.signExtend_or
  · exact BitVec.setWidth_or

lemma extend_xor (v w : BitVec p.bits) : p.extend (v ^^^ w) = p.extend v ^^^ p.extend w := by
  unfold extend
  split_ifs
  · exact BitVec.signExtend_xor
  · exact BitVec.setWidth_xor

/-- The wide word of a value of the type. -/
lemma wideWord_eq (h : p.holds a = true) : Wide.word a = p.extend (p.word a) := by
  rw [← wideWord_ofWord, ofWord_word h]

/-- **The wide operators agree** on values of the type. -/
lemma wideAnd_eq (ha : p.holds a = true) (hb : p.holds b = true) : Wide.and a b = p.bitAnd a b := by
  rw [Wide.and, wideWord_eq ha, wideWord_eq hb, ← extend_and, toInt_extend, bitAnd]

lemma wideOr_eq (ha : p.holds a = true) (hb : p.holds b = true) : Wide.or a b = p.bitOr a b := by
  rw [Wide.or, wideWord_eq ha, wideWord_eq hb, ← extend_or, toInt_extend, bitOr]

lemma wideXor_eq (ha : p.holds a = true) (hb : p.holds b = true) : Wide.xor a b = p.bitXor a b := by
  rw [Wide.xor, wideWord_eq ha, wideWord_eq hb, ← extend_xor, toInt_extend, bitXor]

/-! ## Shifts -/

/-- Bits which are lost do not change the value modulo two to the width. -/
lemma shiftLeft_modEq (a : Int) (places : Nat) :
    p.shiftLeft a places ≡ a * 2 ^ places [ZMOD 2 ^ p.bits] := by
  rw [← word_eq_iff, shiftLeft, word_ofWord, word, word, ofInt_shiftLeft]

/-- A shift to the left is a product, if the type has it. -/
lemma shiftLeft_eq {places : Nat} (h : p.holds (a * 2 ^ places) = true) :
    p.shiftLeft a places = a * 2 ^ places :=
  eq_of_modEq (p.holds_ofWord _) h (shiftLeft_modEq a places)

/-- Twice 200 is 400, of which a byte keeps 144. -/
example : u8.shiftLeft 200 1 = 144 := by decide

/-- A shift to the right is a quotient which is rounded down. -/
lemma shiftRight_eq (h : p.holds a = true) (places : Nat) : p.shiftRight a places = a / 2 ^ places := by
  have hsame := ofWord_word h
  have hcast : ((2 ^ places : Nat) : Int) = 2 ^ places := by push_cast; rfl
  unfold shiftRight ofWord at *
  split_ifs at hsame ⊢
  · rw [BitVec.toInt_sshiftRight, hsame, Int.shiftRight_eq_div_pow, hcast]
  · rw [BitVec.toNat_ushiftRight, Nat.shiftRight_eq_div_pow, Int.natCast_ediv, hsame, hcast]

end Primitive

end EnumTables.Number
