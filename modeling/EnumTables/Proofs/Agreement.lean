import EnumTables.Proofs.Evaluation
import EnumTables.Proofs.Reference

/-!
# Evaluations and typed arithmetic

Where typed arithmetic gives a value and the evaluation does, too, the two agree as far as no bits are
looked at which a shift to the left has pushed out of their type.

* `Kept.Agrees` — a typed value and one of 128 bits share what is said of them.
* `Operates.agrees`, `Shifts.agrees`, `cast_agrees` — one step.
* `amount_eq` — amounts of shifts are the same, although they may have lost bits.
* `Reference.agrees` — by induction, whole expressions and constants.

The evaluation agrees then in whatever state it is.  A shift to the left and back shows that it does not
agree always.
-/

namespace EnumTables.Constants

open EnumTables.Number EnumTables.Source EnumTables.Token

/-! ## Agreement -/

/-- **What a typed value shares with a value of 128 bits.** -/
def Kept.Agrees (typed wide : Int) : Kept → Prop
  | whole => wide = typed
  | low bits => wide ≡ typed [ZMOD 2 ^ bits]

variable {p : Primitive} {a b v a' b' v' : Int} {left right kept : Kept}

namespace Kept

/-- Values which are the same are the same in their lowest bits. -/
lemma Agrees.modEq {bits : Nat} (h : whole.Agrees v v') : v' ≡ v [ZMOD 2 ^ bits] :=
  congrArg (· % 2 ^ bits) h

/-- What two operands share is passed on by an operator which works from the lowest bits upwards. -/
lemma Agrees.meet (ha : left.Agrees a a') (hb : right.Agrees b b') (hwhole : a' = a → b' = b → v' = v)
    (hlow : ∀ {bits : Nat}, a' ≡ a [ZMOD 2 ^ bits] → b' ≡ b [ZMOD 2 ^ bits] → v' ≡ v [ZMOD 2 ^ bits]) :
    (left.meet right).Agrees v v' := by
  cases left with
  | whole =>
      cases right with
      | whole => exact hwhole ha hb
      | low bits => exact hlow ha.modEq hb
  | low bits =>
      cases right with
      | whole => exact hlow ha hb.modEq
      | low bits' =>
          exact hlow (ha.of_dvd (pow_dvd_pow 2 (min_le_left bits bits')))
            (hb.of_dvd (pow_dvd_pow 2 (min_le_right bits bits')))

/-- Where a typed value is cut to its lowest bits, no others are shared. -/
lemma Agrees.cut {bits : Nat} (h : kept.Agrees a v') (hcut : a ≡ v [ZMOD 2 ^ bits]) :
    (kept.meet (low bits)).Agrees v v' := by
  have hlow : (low bits).Agrees v a := hcut
  exact h.meet hlow Eq.trans Int.ModEq.trans

/-- Operators to which all bits matter agree on equal operands. -/
lemma Agrees.needed (ha : left.Agrees a a') (hb : right.Agrees b b')
    (hwhole : a' = a → b' = b → v' = v) : (left.meet right).needed.Agrees v v' := by
  cases left <;> cases right
  case whole.whole => exact hwhole ha hb
  all_goals exact Int.modEq_one

/-- Two values which so many bits tell apart are settled if these are shared. -/
lemma Agrees.settled {width : Nat} (h : kept.Agrees v v') (hsame : v' ≡ v [ZMOD 2 ^ width] → v' = v) :
    (kept.settled width).Agrees v v' := by
  cases kept with
  | whole => exact h
  | low bits =>
      rw [Kept.settled]
      split_ifs with hle
      · exact hsame (h.of_dvd (pow_dvd_pow 2 hle))
      · exact h

/-- A shift to the left moves the bits which are shared up. -/
lemma Agrees.raised (places : Nat) (h : kept.Agrees v v') :
    (kept.raised places).Agrees (v * 2 ^ places) (v' * 2 ^ places) := by
  cases kept with
  | whole => exact congrArg (· * 2 ^ places) h
  | low bits => exact mul_pow_modEq places h

/-- A shift to the right moves them down. -/
lemma Agrees.lowered (places : Nat) (h : kept.Agrees v v') :
    (kept.lowered places).Agrees (v / 2 ^ places) (v' / 2 ^ places) := by
  cases kept with
  | whole => exact congrArg (· / 2 ^ places) h
  | low bits => exact ediv_pow_modEq places h

end Kept

/-! ## One step -/

/-- A mask which is the same lets through the same. -/
lemma mask_agrees (hb : p.holds b = true) (ha : left.Agrees a a') (hcovers : left.Covers b) :
    Wide.and a' b = Wide.and a b := by
  cases left with
  | whole => rw [show a' = a from ha]
  | low bits => exact Wide.and_eq_of_modEq (Primitive.fits_of_holds hb) hcovers.1 hcovers.2 ha

lemma bitAnd_agrees (hha : p.holds a = true) (hhb : p.holds b = true) (ha : left.Agrees a a')
    (hb : right.Agrees b b') :
    (Kept.ofOp .bitAnd a b left right).Agrees (p.bitAnd a b) (Wide.and a' b') := by
  rw [Kept.ofOp, ← Primitive.wideAnd_eq hha hhb]
  split_ifs with hmask
  · rcases hmask with ⟨rfl, hcovers⟩ | ⟨rfl, hcovers⟩
    · obtain rfl : a' = a := ha
      rw [Wide.and_comm a', Wide.and_comm a']
      exact mask_agrees hha hb hcovers
    · obtain rfl : b' = b := hb
      exact mask_agrees hhb ha hcovers
  · exact ha.meet hb (by rintro rfl rfl; rfl) Wide.and_modEq

/-- **Operators agree**: where both give a result, these share what the operands do, by the rule for the
operator. -/
lemma Operates.agrees {op : BinaryOp} (h : Operates p op a b v) (h' : Yields op a' b' v')
    (hha : p.holds a = true) (hhb : p.holds b = true) (ha : left.Agrees a a')
    (hb : right.Agrees b b') : (Kept.ofOp op a b left right).Agrees v v' := by
  cases h with
  | add =>
      cases h'
      exact ha.meet hb (by rintro rfl rfl; rfl) Int.ModEq.add
  | sub =>
      cases h'
      exact ha.meet hb (by rintro rfl rfl; rfl) Int.ModEq.sub
  | mul =>
      cases h'
      exact ha.meet hb (by rintro rfl rfl; rfl) Int.ModEq.mul
  | div =>
      cases h'
      exact ha.needed hb (by rintro rfl rfl; rfl)
  | rem =>
      cases h'
      exact ha.needed hb (by rintro rfl rfl; rfl)
  | bitAnd =>
      cases h'
      exact bitAnd_agrees hha hhb ha hb
  | bitOr =>
      cases h'
      rw [← Primitive.wideOr_eq hha hhb]
      exact ha.meet hb (by rintro rfl rfl; rfl) Wide.or_modEq
  | bitXor =>
      cases h'
      rw [← Primitive.wideXor_eq hha hhb]
      exact ha.meet hb (by rintro rfl rfl; rfl) Wide.xor_modEq

/-- **Amounts are the same** if both are in range, and agree in the bits which say an amount. -/
lemma amount_eq {q : Primitive} (hb : right.Agrees b b') (hsettled : right.settled Kept.amountBits = .whole)
    (h0 : 0 ≤ b) (hlt : b < q.bits) (h' : 0 ≤ b' ∧ b' < 128) : b' = b := by
  have hbits := q.bits_le
  have hsame : b' ≡ b [ZMOD 2 ^ Kept.amountBits] → b' = b := by
    intro h
    rw [Kept.amountBits] at h
    unfold Int.ModEq at h
    omega
  have hagrees := hb.settled hsame
  rwa [hsettled] at hagrees

/-- **Shifts agree**, where the amounts do. -/
lemma Shifts.agrees {op : BinaryOp} (h : Shifts p op a b v) (h' : Yields op a' b' v')
    (hha : p.holds a = true) (ha : left.Agrees a a') (hb : right.Agrees b b') :
    (Kept.ofShift p op a b left right).Agrees v v' := by
  cases h with
  | shl h0 hlt =>
      cases h' with
      | shl hamount =>
          simp only [Kept.ofShift]
          split_ifs with hsettled hroom
          · obtain rfl := amount_eq hb hsettled h0 hlt hamount
            rw [Primitive.shiftLeft_eq hroom]
            exact ha.raised _
          · obtain rfl := amount_eq hb hsettled h0 hlt hamount
            exact (ha.raised _).cut (Primitive.shiftLeft_modEq a b'.toNat).symm
          · exact Int.modEq_one
  | shr h0 hlt =>
      cases h' with
      | shr hamount =>
          simp only [Kept.ofShift]
          split_ifs with hsettled
          · obtain rfl := amount_eq hb hsettled h0 hlt hamount
            rw [Primitive.shiftRight_eq hha]
            exact ha.lowered _
          · exact Int.modEq_one

/-- **A cast agrees** in the bits which it keeps. -/
lemma cast_agrees {q : Primitive} (ha : kept.Agrees a a') (hv' : q.holds v' = true)
    (hmod : v' ≡ a' [ZMOD 2 ^ q.bits]) : (kept.settled q.bits).Agrees (q.wrap a) v' := by
  have hwrap : v' = q.wrap a' := Primitive.eq_wrap_of_modEq hv' hmod
  cases kept with
  | whole => rw [hwrap, show a' = a from ha]; rfl
  | low bits =>
      rw [Kept.settled]
      split_ifs with hle
      · exact Primitive.eq_wrap_of_modEq hv' (hmod.trans (Int.ModEq.of_dvd (pow_dvd_pow 2 hle) ha))
      · have hdvd : (2 : Int) ^ bits ∣ 2 ^ q.bits := pow_dvd_pow 2 (by omega)
        exact ((hmod.of_dvd hdvd).trans ha).trans ((q.wrap_modEq a).of_dvd hdvd).symm

/-! ## Expressions and constants -/

variable {scope : Scope}

mutual

/-- **The values of an expression agree**, as far as the record of the typed one says. -/
theorem Reference.agrees {p : Primitive} {e : Expr} {v v' : Int} {kept : Kept} :
    Reference scope p e v kept → IntegerMeans scope e v' → kept.Agrees v v'
  | .literal _ _, .literal _ _ => rfl
  | .negLiteral _ _ _, .negLiteral _ _ => rfl
  | .negLiteral _ _ _, .neg hl _ _ => by simp [isLiteral] at hl
  | .neg _ hl _ _, .negLiteral _ _ => by simp [isLiteral] at hl
  | .neg _ _ h _, .neg _ h' _ => by
      have hoperand := h.agrees h'
      cases kept with
      | whole => exact congrArg (- ·) hoperand
      | low => exact Int.ModEq.neg hoperand
  | .binary hl hr h, .binary hl' hr' h' =>
      h.agrees h' hl.holds hr.holds (hl.agrees hl') (hr.agrees hr')
  | .shift hl hr h, .binary hl' hr' h' => h.agrees h' hl.holds (hl.agrees hl') (hr.agrees hr')
  | .cast h ht, .cast h' ht' hv hmod => by
      rw [ht] at ht'
      cases ht'
      exact cast_agrees (h.agrees h') hv hmod
  | .least hn, .bound hb => by
      rw [boundOf?_eq_some_iff.mpr ⟨_, .inl ⟨hn, rfl⟩⟩] at hb
      cases hb
      rfl
  | .least hn, .path hb _ _ _ => by
      rw [boundOf?_eq_some_iff.mpr ⟨_, .inl ⟨hn, rfl⟩⟩] at hb
      cases hb
  | .greatest hn, .bound hb => by
      rw [boundOf?_eq_some_iff.mpr ⟨_, .inr ⟨hn, rfl⟩⟩] at hb
      cases hb
      rfl
  | .greatest hn, .path hb _ _ _ => by
      rw [boundOf?_eq_some_iff.mpr ⟨_, .inr ⟨hn, rfl⟩⟩] at hb
      cases hb
  | .path hb _ _, .bound hb' => by simp [hb] at hb'
  | .path _ hk h, .path _ hk' _ h' => by
      rw [hk] at hk'
      cases hk'
      exact h.agrees h'
  | .field hk h, .field hk' _ h' => by
      rw [hk] at hk'
      cases hk'
      exact h.agrees h'
  | .paren h, .paren h' => h.agrees h'

theorem ReferenceGroup.agrees {e : Expr} {v v' : Int} {kept : Kept} :
    ReferenceGroup scope e v kept → GroupMeans scope e v' → kept.Agrees v v'
  | .call _ h, .call _ h' hv' => (h.agrees h').settled (Primitive.eq_of_modEq hv' h.holds)
  | .path hk h, .path hk' _ h' => by
      rw [hk] at hk'
      cases hk'
      exact h.agrees h'
  | .paren h, .paren h' => h.agrees h'

theorem ReferenceKey.agrees {key : Key} {kind : Kind} {v v' : Int} {kept : Kept} :
    ReferenceKey scope key kind v kept → KeyMeans scope key v' →
      kept.Agrees v v'
  | .group hf h, .group hf' h' => by
      rw [hf] at hf'
      cases hf'
      exact h.agrees h'
  | .scalar hf h, .scalar hf' h' hv' => by
      rw [hf] at hf'
      cases hf'
      exact (h.agrees h').settled (Primitive.eq_of_modEq hv' h.holds)
  | .group hf _, .scalar hf' _ _ => by simp [hf] at hf'
  | .scalar hf _, .group hf' _ => by simp [hf] at hf'

end

/-! ## Evaluations -/

/-- **The evaluation agrees with typed arithmetic**, whatever was evaluated before.  Expressions and
constants have the same value in both if all of it is kept, and the same in as many of the lowest bits as
are.  All is kept where nothing is shifted to the left. -/
theorem evaluation_agrees {memo : Memo} (hm : scope.Reached memo) :
    (∀ {depth p e v kept v' after}, Reference scope p e v kept →
      (scope.integer (scope.evaluateWith depth) e).run memo = .ok (v', after) →
      (kept = .whole → v' = v) ∧ (∀ bits, kept = .low bits → v' ≡ v [ZMOD 2 ^ bits])) ∧
    (∀ {depth key kind v kept span v' after}, ReferenceKey scope key kind v kept →
      (scope.evaluateWith depth key span).run memo = .ok (v', after) →
      (kept = .whole → v' = v) ∧ (∀ bits, kept = .low bits → v' ≡ v [ZMOD 2 ^ bits])) ∧
    (scope.KeepsBits →
      (∀ {p e v kept}, Reference scope p e v kept → keepsBits e = true → kept = .whole) ∧
      (∀ {key kind v kept}, ReferenceKey scope key kind v kept → kept = .whole)) := by
  have hsplit : ∀ {kept : Kept} {v v' : Int}, kept.Agrees v v' →
      (kept = .whole → v' = v) ∧ (∀ bits, kept = .low bits → v' ≡ v [ZMOD 2 ^ bits]) := by
    intro kept v v' h
    constructor
    · rintro rfl
      exact h
    · rintro bits rfl
      exact h
  refine ⟨?_, ?_, fun hs => ⟨Reference.whole hs, ReferenceKey.whole hs⟩⟩
  · intro depth p e v kept v' after href hrun
    exact hsplit (href.agrees (integer_sound (evaluateWith_truthful depth) hm.sound hrun).1)
  · intro depth key kind v kept span v' after href hrun
    exact hsplit (href.agrees (evaluateWith_truthful depth hm.sound hrun).1)

/-! ## A shift to the left -/

/-- A scope without constants. -/
def bare : Scope := ⟨"A", .u8, []⟩

/-- A literal which stands nowhere. -/
def literal (magnitude : Nat) (suffix : String) : Expr :=
  let span : Span := { start := .origin, stop := .origin }
  .integer ⟨magnitude, suffix⟩ span span

/-- An operator between two expressions, which stands where the first one does. -/
def joined (op : BinaryOp) (left right : Expr) : Expr := .binary op left right left.span

lemma reference_one : Reference bare .i32 (literal 1 "") 1 .whole := .literal (.inl rfl) rfl

/-- `(200u8 << 1) >> 1`. -/
def shiftedBack : Expr :=
  joined .shr (joined .shl (literal 200 "u8") (literal 1 "")) (literal 1 "")

/-- `200u8 << 1` has no room for the upper bit, and behind the shift to the right seven bits are shared. -/
lemma reference_shiftedBack : Reference bare .u8 shiftedBack 72 (.low 7) := by
  have hdoubled : Reference bare .u8 (joined .shl (literal 200 "u8") (literal 1 "")) 144 (.low 8) :=
    .shift (.literal (.inr rfl) rfl) reference_one (.shl (by decide) (by decide))
  exact .shift hdoubled reference_one (.shr (by decide) (by decide))

/-- A mask of seven bits puts right what was lost. -/
theorem evaluation_agrees_masked :
    ∃ v' after, (bare.integer (bare.evaluateWith 0)
      (joined .bitAnd shiftedBack (literal 127 ""))).run .empty = .ok (v', after) ∧ v' = 72 := by
  have href : Reference bare .u8 (joined .bitAnd shiftedBack (literal 127 "")) 72 .whole :=
    .binary reference_shiftedBack (.literal (.inl rfl) rfl) .bitAnd
  have hrun : (bare.integer (bare.evaluateWith 0)
      (joined .bitAnd shiftedBack (literal 127 ""))).run .empty = .ok (72, .empty) := rfl
  exact ⟨72, .empty, hrun, ((evaluation_agrees .start).1 href hrun).1 rfl⟩

/-- **Shifted to the left and back**, a value is the same to the evaluation, while typed arithmetic has
lost its upper bit. -/
theorem evaluation_differs :
    ¬ ∀ (scope : Scope) (memo after : Memo) (depth : Nat) (p : Primitive) (e : Expr) (v v' : Int)
      (kept : Kept), scope.Reached memo → Reference scope p e v kept →
      (scope.integer (scope.evaluateWith depth) e).run memo = .ok (v', after) → v = v' := by
  intro h
  have hsame := h bare .empty .empty 0 _ _ 72 200 _ .start reference_shiftedBack rfl
  omega

end EnumTables.Constants
