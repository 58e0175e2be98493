import EnumTables.Proofs.KnownConstants
import EnumTables.Proofs.TwosComplement

/-!
# Integer expressions are exact

The value of an integer expression is its value over the unbounded integers, or none: nothing wraps on the
way, not even where the bits of a word are shifted or joined.

* `exactOp`, `exactValue` — operators and expressions on unbounded integers, where everything has a value.
* `SafeOp`, `Safe` — the conditions under which there is one.
* `Scope.Arithmetic` — the expressions which are made of integers.
* `integerMeans_iff` — what an expression means.
* `integer_exact` — how an expression is evaluated, whatever is known and whatever is in progress.
-/

namespace EnumTables.Constants

open EnumTables.Number EnumTables.Source EnumTables.Token

variable {scope : Scope} {value : Key → Int} {v : Int}

/-! ## Operators on unbounded integers -/

/-- **The result of an operator on unbounded integers**: quotients and remainders truncate toward zero, bits
are those of two's complement without an end, and shifts multiply by a power of two, or divide by one and
round down. -/
def exactOp : BinaryOp → Int → Int → Int
  | .add, a, b => a + b
  | .sub, a, b => a - b
  | .mul, a, b => a * b
  | .div, a, b => a.tdiv b
  | .rem, a, b => a.tmod b
  | .bitAnd, a, b => Int.land a b
  | .bitOr, a, b => Int.lor a b
  | .bitXor, a, b => Int.xor a b
  | .shl, a, b => a * 2 ^ b.toNat
  | .shr, a, b => a.fdiv (2 ^ b.toNat)
  | .other, _, _ => 0

/-- **What an operator asks of its operands.** -/
def SafeOp : BinaryOp → Int → Int → Prop
  | .add, a, b => Wide.Fits (a + b)
  | .sub, a, b => Wide.Fits (a - b)
  | .mul, a, b => Wide.Fits (a * b)
  | .div, a, b => b ≠ 0 ∧ Wide.Fits (a.tdiv b)
  | .rem, a, b => b ≠ 0 ∧ ¬ (a = Wide.least ∧ b = -1)
  | .shl, a, b => (0 ≤ b ∧ b ≤ 127) ∧ Wide.Fits (a * 2 ^ b.toNat)
  | .shr, _, b => 0 ≤ b ∧ b ≤ 127
  | .bitAnd, _, _ | .bitOr, _, _ | .bitXor, _, _ | .other, _, _ => True

/-- **An operator yields its result on unbounded integers**, if its operands are as it asks. -/
lemma yields_iff {op : BinaryOp} {a b : Int} (ha : Wide.Fits a) (hb : Wide.Fits b) :
    Yields op a b v ↔ op ≠ .other ∧ SafeOp op a b ∧ v = exactOp op a b := by
  have hlt : (0 ≤ b ∧ b < 128) ↔ 0 ≤ b ∧ b ≤ 127 := by omega
  have hfloor : a.fdiv (2 ^ b.toNat) = a / 2 ^ b.toNat :=
    Int.fdiv_eq_ediv_of_nonneg a (Int.pow_pos (by decide)).le
  constructor
  · intro h
    cases h with
    | add h | sub h | mul h => exact ⟨nofun, h, rfl⟩
    | div hb h => exact ⟨nofun, ⟨hb, h⟩, rfl⟩
    | rem hb h => exact ⟨nofun, ⟨hb, (Wide.fits_tdiv_iff ha).mp h⟩, rfl⟩
    | bitAnd => exact ⟨nofun, trivial, Wide.and_eq_land ha hb⟩
    | bitOr => exact ⟨nofun, trivial, Wide.or_eq_lor ha hb⟩
    | bitXor => exact ⟨nofun, trivial, Wide.xor_eq_xor ha hb⟩
    | shl hb h => exact ⟨nofun, ⟨hlt.mp hb, h⟩, rfl⟩
    | shr hb => exact ⟨nofun, hlt.mp hb, hfloor.symm⟩
  · rintro ⟨hop, h, rfl⟩
    cases op with
    | add => exact .add h
    | sub => exact .sub h
    | mul => exact .mul h
    | div => exact .div h.1 h.2
    | rem => exact .rem h.1 ((Wide.fits_tdiv_iff ha).mpr h.2)
    | bitAnd =>
        rw [exactOp, ← Wide.and_eq_land ha hb]
        exact .bitAnd
    | bitOr =>
        rw [exactOp, ← Wide.or_eq_lor ha hb]
        exact .bitOr
    | bitXor =>
        rw [exactOp, ← Wide.xor_eq_xor ha hb]
        exact .bitXor
    | shl => exact .shl (hlt.mpr h.1) h.2
    | shr =>
        rw [exactOp, hfloor]
        exact .shr (hlt.mpr h)
    | other => exact absurd rfl hop

/-! ## Expressions on unbounded integers -/

/-- The value of the constant which a path refers to. -/
def valueAt (type : String) (value : Key → Int) (path : Path) : Int :=
  ((keyOf? type path).map value).getD 0

lemma valueAt_eq {type : String} {path : Path} {key : Key} (hk : keyOf? type path = some key) :
    valueAt type value path = value key := by
  rw [valueAt, hk, Option.map_some, Option.getD_some]

/-- **The value of an expression over the unbounded integers**, with `value` for the constants.  Where there
is none, it is zero. -/
def exactValue (type : String) (value : Key → Int) : Expr → Int
  | .integer number _ _ => number.magnitude
  | .neg operand _ => -exactValue type value operand
  | .binary op left right _ => exactOp op (exactValue type value left) (exactValue type value right)
  | .cast operand target _ =>
    match target.primitive? with
    | some target => target.residue (exactValue type value operand)
    | none => 0
  | .path path _ =>
    match boundOf? path with
    | some bound => bound
    | none => valueAt type value path
  | .field (.path path _) _ _ => valueAt type value path
  | .paren inner _ => exactValue type value inner
  | _ => 0

/-- **What an expression asks of its parts.**  A literal is looked at before it is negated, but for its
suffix. -/
def Safe (type : String) (value : Key → Int) : Expr → Prop
  | .integer number _ _ => Wide.Fits number.magnitude ∧ SuffixAllows number.suffix number.magnitude
  | .neg operand _ =>
    match operand with
    | .integer number _ _ => Wide.Fits number.magnitude ∧ SuffixAllows number.suffix (-number.magnitude)
    | operand => Safe type value operand ∧ Wide.Fits (-exactValue type value operand)
  | .binary op left right _ =>
    Safe type value left ∧ Safe type value right ∧
      SafeOp op (exactValue type value left) (exactValue type value right)
  | .cast operand _ _ | .paren operand _ => Safe type value operand
  | _ => True

/-- **Expressions which are made of integers**: literals, bounds, constants of which an integer can be read,
operators, and casts to the primitives. -/
def Scope.Arithmetic (scope : Scope) : Expr → Prop
  | .integer _ _ _ => True
  | .neg operand _ | .paren operand _ => scope.Arithmetic operand
  | .binary op left right _ => op ≠ .other ∧ scope.Arithmetic left ∧ scope.Arithmetic right
  | .cast operand target _ => scope.Arithmetic operand ∧ target.primitive?.isSome = true
  | .path path _ =>
    (boundOf? path).isSome = true ∨ ∃ key, keyOf? scope.type path = some key ∧ scope.isGroup key = false
  | .field base index _ =>
    ∃ path inner key, base = .path path inner ∧ index = 0 ∧ keyOf? scope.type path = some key ∧
      scope.isScalar key = false
  | .call _ _ _ | .block _ | .range _ | .other _ => False

lemma safe_neg {type : String} {operand : Expr} {span : Span} (h : isLiteral operand = false) :
    Safe type value (.neg operand span) ↔
      Safe type value operand ∧ Wide.Fits (-exactValue type value operand) := by
  cases operand <;> first | exact Iff.rfl | cases h

/-- What a path means: the bound which it names, or else the constant. -/
lemma means_path_iff {path : Path} {span : Span}
    (hv : ∀ key ∈ integerReferences scope.type (.path path span), KeyMeans scope key (value key)) :
    IntegerMeans scope (.path path span) v ↔
      scope.Arithmetic (.path path span) ∧ Safe scope.type value (.path path span) ∧
        v = exactValue scope.type value (.path path span) := by
  simp only [Scope.Arithmetic, Safe, exactValue, true_and]
  rcases hb : boundOf? path with _ | bound
  · have hmeans : ∀ key, keyOf? scope.type path = some key → KeyMeans scope key (value key) :=
      fun key hk => hv key (by simp [integerReferences, hb, hk])
    simp only [Option.isSome_none, Bool.false_eq_true, false_or]
    constructor
    · intro h
      cases h with
      | bound h => simp [hb] at h
      | path _ hk hg h => exact ⟨⟨_, hk, hg⟩, valueAt_eq hk ▸ h.unique (hmeans _ hk)⟩
    · rintro ⟨⟨key, hk, hg⟩, rfl⟩
      exact .path hb hk hg (valueAt_eq hk ▸ hmeans key hk)
  · simp only [Option.isSome_some, true_or, true_and]
    constructor
    · intro h
      cases h with
      | bound h => simpa [hb, eq_comm] using h
      | path h => simp [hb] at h
    · rintro rfl
      exact .bound hb

/-- **An expression means its value over the unbounded integers**, if it is made of integers and its parts
are as it asks. -/
theorem integerMeans_iff {e : Expr}
    (hv : ∀ key ∈ integerReferences scope.type e, KeyMeans scope key (value key)) :
    IntegerMeans scope e v ↔
      scope.Arithmetic e ∧ Safe scope.type value e ∧ v = exactValue scope.type value e := by
  induction e generalizing v with
  | integer number place span =>
      constructor
      · intro h
        cases h with
        | literal hf hs => exact ⟨trivial, ⟨hf, hs⟩, rfl⟩
      · rintro ⟨-, ⟨hf, hs⟩, rfl⟩
        exact .literal hf hs
  | neg operand span ih =>
      cases hl : isLiteral operand
      · rw [safe_neg hl]
        constructor
        · intro h
          cases h with
          | negLiteral => cases hl
          | neg _ h hf =>
              obtain ⟨ha, hs, rfl⟩ := (ih hv).mp h
              exact ⟨ha, ⟨hs, hf⟩, rfl⟩
        · rintro ⟨ha, ⟨hs, hf⟩, rfl⟩
          exact .neg hl ((ih hv).mpr ⟨ha, hs, rfl⟩) hf
      · cases operand <;> simp only [isLiteral, Bool.false_eq_true] at hl
        constructor
        · intro h
          cases h with
          | negLiteral hf hs => exact ⟨trivial, ⟨hf, hs⟩, rfl⟩
          | neg hl _ _ => cases hl
        · rintro ⟨-, ⟨hf, hs⟩, rfl⟩
          exact .negLiteral hf hs
  | binary op left right span ihl ihr =>
      have hl := fun w => ihl (v := w) fun key hkey => hv key (List.mem_append_left _ hkey)
      have hr := fun w => ihr (v := w) fun key hkey => hv key (List.mem_append_right _ hkey)
      constructor
      · intro h
        cases h with
        | binary ha hb hy =>
            obtain ⟨hop, hsafe, rfl⟩ := (yields_iff ha.fits hb.fits).mp hy
            obtain ⟨hal, hsl, rfl⟩ := (hl _).mp ha
            obtain ⟨har, hsr, rfl⟩ := (hr _).mp hb
            exact ⟨⟨hop, hal, har⟩, ⟨hsl, hsr, hsafe⟩, rfl⟩
      · rintro ⟨⟨hop, hal, har⟩, ⟨hsl, hsr, hsafe⟩, rfl⟩
        have ha := (hl _).mpr ⟨hal, hsl, rfl⟩
        have hb := (hr _).mpr ⟨har, hsr, rfl⟩
        exact .binary ha hb ((yields_iff ha.fits hb.fits).mpr ⟨hop, hsafe, rfl⟩)
  | cast operand target span ih =>
      simp only [Scope.Arithmetic, Safe, exactValue]
      constructor
      · intro h
        cases h with
        | cast h ht hr hmod =>
            obtain ⟨ha, hs, rfl⟩ := (ih hv).mp h
            simp only [ht]
            exact ⟨⟨ha, rfl⟩, hs, Primitive.wrap_eq_residue _ _ ▸ Primitive.eq_wrap_of_modEq hr hmod⟩
      · rintro ⟨⟨ha, ht⟩, hs, rfl⟩
        obtain ⟨type, ht⟩ := Option.isSome_iff_exists.mp ht
        simp only [ht, ← Primitive.wrap_eq_residue]
        exact .cast ((ih hv).mpr ⟨ha, hs, rfl⟩) ht (type.holds_wrap _) (type.wrap_modEq _)
  | path path span => exact means_path_iff hv
  | field base index span =>
      constructor
      · intro h
        cases h with
        | field hk hs h =>
            rw [exactValue, valueAt_eq hk]
            exact ⟨⟨_, _, _, rfl, rfl, hk, hs⟩, trivial, h.unique (hv _ (by simp [integerReferences, hk]))⟩
      · rintro ⟨⟨path, inner, key, rfl, rfl, hk, hs⟩, -, rfl⟩
        rw [exactValue, valueAt_eq hk]
        exact .field hk hs (hv key (by simp [integerReferences, hk]))
  | paren inner span ih =>
      constructor
      · intro h
        cases h with
        | paren h => exact (ih hv).mp h
      · intro h
        exact .paren ((ih hv).mpr h)
  | call | block | range | other =>
      constructor
      · intro h
        cases h
      · rintro ⟨h, -⟩
        exact h.elim

/-! ## Evaluations -/

/-- **The evaluation of integers is exact, and never wraps.**  Whatever is known and whatever is in progress,
let the constants which an expression refers to be such that they can be evaluated.  Then the expression is
evaluated exactly if it is made of integers and its parts are as it asks, and to its value over the unbounded
integers; in every other case there is a failure. -/
theorem integer_exact {memo : Memo} {e : Expr} (hm : scope.Reached memo)
    (hv : ∀ key ∈ integerReferences scope.type e, ∃ span after,
      (scope.evaluate key span).run memo = .ok (value key, after)) :
    (∀ v, (∃ after, (scope.integer scope.evaluate e).run memo = .ok (v, after)) ↔
      scope.Arithmetic e ∧ Safe scope.type value e ∧ v = exactValue scope.type value e) ∧
    (¬ (scope.Arithmetic e ∧ Safe scope.type value e) →
      ∃ failure, (scope.integer scope.evaluate e).run memo = .error failure) := by
  have hsettled := hm.settled
  have hclear : ∀ key ∈ integerReferences scope.type e,
      KeyMeans scope key (value key) ∧ scope.Clear memo key := by
    intro key hkey
    obtain ⟨span, hrun⟩ := hv key hkey
    exact (evaluate_iff_clear hsettled).mp hrun
  have hanswers : scope.Answers scope.evaluate (scope.Later memo) (integerReferences scope.type e) := by
    intro key hkey w hw span between hlater
    have hbetween := (hclear key hkey).2.advance hlater.advances
    obtain ⟨after, hrun⟩ := exists_run_of_clear hlater.settled hw hbetween
    exact ⟨after, hrun, hlater.evaluated hrun⟩
  have hiff : ∀ v, (∃ after, (scope.integer scope.evaluate e).run memo = .ok (v, after)) ↔
      scope.Arithmetic e ∧ Safe scope.type value e ∧ v = exactValue scope.type value e := by
    intro v
    rw [← integerMeans_iff fun key hkey => (hclear key hkey).1]
    constructor
    · rintro ⟨after, hrun⟩
      exact (integer_sound (evaluateWith_truthful scope.depth) hsettled.sound hrun).1
    · intro hmeans
      obtain ⟨after, hrun, -⟩ := integer_complete hmeans hanswers hsettled.later_self
      exact ⟨after, hrun⟩
  refine ⟨hiff, fun hnot => ?_⟩
  rcases hrun : (scope.integer scope.evaluate e).run memo with failure | ⟨v, after⟩
  · exact ⟨failure, rfl⟩
  · obtain ⟨ha, hs, -⟩ := (hiff v).mp ⟨after, hrun⟩
    exact (hnot ⟨ha, hs⟩).elim

/-- A scope with one constant, of `-5`. -/
def lone : Scope :=
  ⟨"A", .u8, [(.free "B", ⟨.scalar .i8, .neg (.integer ⟨5, ""⟩ .nowhere .nowhere) .nowhere⟩)]⟩

/-- The constant, shifted to the left. -/
def loneShifted (places : Nat) : Expr :=
  .binary .shl (.path (.ofName "B") .nowhere) (.integer ⟨places, ""⟩ .nowhere .nowhere) .nowhere

/-- The product with a power of two has room for the first power, and not for the next one. -/
theorem integer_exact_loneShifted :
    (∃ after, (lone.integer lone.evaluate (loneShifted 124)).run .empty = .ok (-5 * 2 ^ 124, after)) ∧
      ∃ failure, (lone.integer lone.evaluate (loneShifted 125)).run .empty = .error failure := by
  have hv : ∀ places, ∀ key ∈ integerReferences lone.type (loneShifted places), ∃ span after,
      (lone.evaluate key span).run .empty = .ok (-5, after) := by
    intro places key hkey
    obtain rfl : key = .free "B" := List.mem_singleton.mp hkey
    exact ⟨.nowhere, _, rfl⟩
  have harithmetic : ∀ places, lone.Arithmetic (loneShifted places) :=
    fun places => ⟨nofun, .inr ⟨.free "B", rfl, rfl⟩, trivial⟩
  refine ⟨((integer_exact .start (hv 124)).1 _).mpr ⟨harithmetic 124, ?_, rfl⟩,
    (integer_exact .start (hv 125)).2 ?_⟩
  · exact ⟨trivial, ⟨by decide, by decide⟩, by decide, by decide⟩
  · rintro ⟨-, -, -, -, hfits⟩
    exact absurd hfits (by decide)

end EnumTables.Constants
