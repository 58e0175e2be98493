import EnumTables.Proofs.WideArithmetic

/-!
# Casts are residues

A cast masks the lowest bits of a value and moves the upper half of what they can say below zero.  What comes
of it is the one value of the type which is the operand modulo two to the width, and all which happens on the
way has room in 128 bits.

* `Primitive.wrapSteps?` — a cast in steps, each of which is refused if it does not fit.
* `Primitive.wrapSteps?_eq` — none of them is.
* `Primitive.wrap_wrap` — a cast does not see a wider one before it.
* `Primitive.wrap_isResidue` — all that a cast is.
-/

namespace EnumTables.Number.Primitive

variable {p wider : Primitive} {value result : Int}

/-! ## Room for the steps -/

/-- **A cast in steps**: the mask, and where the type is signed, the half and the difference.  Each power and
each difference is refused if it does not have 128 bits. -/
def wrapSteps? (p : Primitive) (value : Int) : Option Int := do
  let modulus ← Wide.shl? 1 p.bits
  let mask ← Wide.sub? modulus 1
  let kept := Wide.and value mask
  if p.isSigned then
    let half ← Wide.shl? 1 ↑(p.bits - 1)
    if half ≤ kept then Wide.sub? kept modulus else some kept
  else some kept

lemma two_pow_le {n : Nat} (h : n ≤ 64) : (2 : Int) ^ n ≤ 2 ^ 64 := by
  exact_mod_cast Nat.pow_le_pow_right (n := 2) (by decide) h

/-- There is room for the powers of two up to twice the width. -/
lemma shl?_one {n : Nat} (h : n ≤ 64) : Wide.shl? 1 n = some (2 ^ n) := by
  have hle := two_pow_le h
  have hpos : (0 : Int) < 2 ^ n := Int.pow_pos (by decide)
  rw [Wide.shl?_eq_some_iff, Int.toNat_natCast, one_mul]
  refine ⟨by omega, Wide.fits_iff.mpr ?_, rfl⟩
  omega

lemma sub?_eq {a b : Int} (h : Wide.Fits (a - b)) : Wide.sub? a b = some (a - b) :=
  Wide.fit?_eq_some_iff.mpr ⟨h, rfl⟩

/-- What the mask keeps is less than the modulus. -/
lemma and_mask_lt (p : Primitive) (value : Int) :
    0 ≤ Wide.and value (2 ^ p.bits - 1) ∧ Wide.and value (2 ^ p.bits - 1) < 2 ^ p.bits := by
  have hlt := (p.word value).isLt
  rw [and_mask]
  constructor
  · exact Int.natCast_nonneg _
  · exact_mod_cast hlt

/-- **No step of a cast is refused**, and what comes of the steps is the cast. -/
lemma wrapSteps?_eq (p : Primitive) (value : Int) : p.wrapSteps? value = some (p.wrap value) := by
  have hmodulus := two_pow_le p.bits_le
  have hpos : (0 : Int) < 2 ^ p.bits := Int.pow_pos (by decide)
  have hhalf := shl?_one ((Nat.sub_le p.bits 1).trans p.bits_le)
  obtain ⟨hnonneg, hlt⟩ := p.and_mask_lt value
  have hmask : Wide.sub? (2 ^ p.bits) 1 = some (2 ^ p.bits - 1) :=
    sub?_eq (Wide.fits_iff.mpr (by omega))
  have hbelow : Wide.sub? (Wide.and value (2 ^ p.bits - 1)) (2 ^ p.bits) =
      some (Wide.and value (2 ^ p.bits - 1) - 2 ^ p.bits) := sub?_eq (Wide.fits_iff.mpr (by omega))
  simp only [wrapSteps?, wrap, shl?_one p.bits_le, hmask, hhalf, hbelow, twoPow_eq, Option.bind_eq_bind,
    Option.bind_some]
  cases p.isSigned with
  | false => simp
  | true =>
      simp only [if_true, Bool.true_and, decide_eq_true_eq]
      split_ifs <;> rfl

/-! ## Residues -/

/-- **A cast gives the one value of the type** which is its operand modulo two to the width. -/
lemma eq_wrap_iff : result = p.wrap value ↔ p.holds result = true ∧ result ≡ value [ZMOD 2 ^ p.bits] := by
  constructor
  · rintro rfl
    exact ⟨p.holds_wrap value, p.wrap_modEq value⟩
  · rintro ⟨hholds, hmod⟩
    exact eq_wrap_of_modEq hholds hmod

/-- Only the values of the type are left alone. -/
lemma wrap_eq_self_iff : p.wrap value = value ↔ p.holds value = true := by
  rw [eq_comm, eq_wrap_iff]
  exact and_iff_left rfl

/-- **A cast does not see a wider one before it**: what is the same modulo the greater power of two is the
same modulo the less. -/
lemma wrap_wrap (h : p.bits ≤ wider.bits) : p.wrap (wider.wrap value) = p.wrap value := by
  have hdvd : (2 : Int) ^ p.bits ∣ 2 ^ wider.bits := pow_dvd_pow 2 h
  have hwider : wider.wrap value ≡ value [ZMOD 2 ^ p.bits] := (wider.wrap_modEq value).of_dvd hdvd
  exact eq_wrap_of_modEq (p.holds_wrap _) ((p.wrap_modEq _).trans hwider)

/-- **Casts are residues.**  What a cast makes of a value is the one value in the range of its type which is
congruent to it modulo two to the width, and no step on the way needs more than 128 bits.  Hence exactly the
values in range are left alone, and a cast to a type which is at least as wide, signed or not, makes no
difference to one behind it. -/
theorem wrap_isResidue (p : Primitive) (value : Int) :
    (∀ result, result = p.wrap value ↔ p.holds result = true ∧ result ≡ value [ZMOD 2 ^ p.bits]) ∧
    p.wrapSteps? value = some (p.wrap value) ∧
    (p.wrap value = value ↔ p.holds value = true) ∧
    ∀ wider : Primitive, p.bits ≤ wider.bits → p.wrap (wider.wrap value) = p.wrap value :=
  ⟨fun _ => eq_wrap_iff, p.wrapSteps?_eq value, wrap_eq_self_iff, fun _ => wrap_wrap⟩

/-- A value below the range of `i8` comes back from below zero, also through an unsigned type. -/
theorem wrap_isResidue_u16 : i8.bits ≤ u16.bits ∧ i8.wrap (u16.wrap (-129)) = 127 :=
  ⟨by decide, ((i8.wrap_isResidue (-129)).2.2.2 u16 (by decide)).trans (by decide)⟩

end EnumTables.Number.Primitive
