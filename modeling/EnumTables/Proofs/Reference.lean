import EnumTables.Proofs.Meaning
import EnumTables.Proofs.NarrowArithmetic

/-!
# Constants with typed arithmetic

The values which constants have if every operation is done at the width of its own type, as a compiler does
it, in place of the 128 bits of the evaluation.

* `Operates`, `Shifts` — the operators at a type: arithmetic must not overflow, a shift goes by less than
  the width, and a shift to the left loses what has no room.
* `Kept` — what a typed value shares with the one that 128 bits give: all, or some of the lowest bits.
* `Reference`, `ReferenceGroup`, `ReferenceKey` — the values of well-typed integer expressions, of
  initializers of the type and of constants; the last index only keeps record of what is shared, and rules
  nothing out.
* `Reference.holds` — the value of an expression is one of its type.
* `Reference.whole` — everything is shared where nothing is shifted to the left.
-/

namespace EnumTables.Constants

open EnumTables.Number EnumTables.Source EnumTables.Token

/-! ## Operators -/

/-- **The result of an operator between two operands of one type.** -/
inductive Operates (p : Primitive) : BinaryOp → Int → Int → Int → Prop
  | add {a b} : p.holds (a + b) = true → Operates p .add a b (a + b)
  | sub {a b} : p.holds (a - b) = true → Operates p .sub a b (a - b)
  | mul {a b} : p.holds (a * b) = true → Operates p .mul a b (a * b)
  | div {a b} : b ≠ 0 → p.holds (a.tdiv b) = true → Operates p .div a b (a.tdiv b)
  | rem {a b} : b ≠ 0 → p.holds (a.tdiv b) = true → Operates p .rem a b (a.tmod b)
  | bitAnd {a b} : Operates p .bitAnd a b (p.bitAnd a b)
  | bitOr {a b} : Operates p .bitOr a b (p.bitOr a b)
  | bitXor {a b} : Operates p .bitXor a b (p.bitXor a b)

/-- **The result of a shift** of an operand of a type by an amount of any type. -/
inductive Shifts (p : Primitive) : BinaryOp → Int → Int → Int → Prop
  | shl {a places : Int} : 0 ≤ places → places < p.bits → Shifts p .shl a places (p.shiftLeft a places.toNat)
  | shr {a places : Int} : 0 ≤ places → places < p.bits → Shifts p .shr a places (p.shiftRight a places.toNat)

/-! ## What is kept -/

/-- **What a typed value shares with the value that 128 bits give**: it is the same, or the same in so many
of its lowest bits. -/
inductive Kept where
  | whole
  | low (bits : Nat)
deriving DecidableEq, Repr

namespace Kept

/-- What both of two operands share. -/
def meet : Kept → Kept → Kept
  | whole, other => other
  | other, whole => other
  | low bits, low bits' => low (min bits bits')

/-- What is shared by a result to which the upper bits matter. -/
def needed : Kept → Kept
  | whole => whole
  | low _ => low 0

/-- What is shared by a result of no more than these bits: it is the same if all of them are shared. -/
def settled (width : Nat) : Kept → Kept
  | whole => whole
  | low bits => if width ≤ bits then whole else low bits

/-- What is shared behind a shift to the left. -/
def raised (places : Nat) : Kept → Kept
  | whole => whole
  | low bits => low (bits + places)

/-- What is shared behind a shift to the right. -/
def lowered (places : Nat) : Kept → Kept
  | whole => whole
  | low bits => low (bits - places)

/-- Whether a mask lets only bits through which are shared. -/
def Covers : Kept → Int → Prop
  | whole, _ => True
  | low bits, mask => 0 ≤ mask ∧ mask < 2 ^ bits

instance (kept : Kept) (mask : Int) : Decidable (kept.Covers mask) :=
  match kept with
  | whole => inferInstanceAs (Decidable True)
  | low bits => inferInstanceAs (Decidable (0 ≤ mask ∧ mask < 2 ^ bits))

/-- Quotients and remainders need all bits.  A mask cuts off those which it does not reach, and the other
operators pass on the lowest ones. -/
def ofOp (op : BinaryOp) (a b : Int) (left right : Kept) : Kept :=
  match op with
  | .div | .rem => (left.meet right).needed
  | .bitAnd =>
    if (left = whole ∧ right.Covers a) ∨ (right = whole ∧ left.Covers b) then whole
    else left.meet right
  | _ => left.meet right

/-- How many bits say an amount by which 128 bits can be shifted. -/
def amountBits : Nat := 7

/-- A shift moves the bits which are shared.  It needs the amount, and one to the left drops the bits which
have no room. -/
def ofShift (p : Primitive) (op : BinaryOp) (a places : Int) (left amount : Kept) : Kept :=
  if amount.settled amountBits = whole then
    match op with
    | .shl =>
      if p.holds (a * 2 ^ places.toNat) then left.raised places.toNat
      else (left.raised places.toNat).meet (low p.bits)
    | _ => left.lowered places.toNat
  else low 0

@[simp] lemma meet_whole (kept : Kept) : kept.meet whole = kept := by
  cases kept <;> rfl

@[simp] lemma settled_whole (width : Nat) : settled width whole = whole := rfl

@[simp] lemma ofOp_whole (op : BinaryOp) (a b : Int) : ofOp op a b whole whole = whole := by
  cases op <;> simp [ofOp, needed]

end Kept

/-! ## Values -/

mutual

/-- **The value of a well-typed integer expression of a type.** -/
inductive Reference (scope : Scope) : Primitive → Expr → Int → Kept → Prop
  | literal {p number place span} :
      number.suffix = "" ∨ number.suffix = p.label → p.holds number.magnitude = true →
      Reference scope p (.integer number place span) number.magnitude .whole
  | negLiteral {p number place inner span} :
      p.isSigned = true → number.suffix = "" ∨ number.suffix = p.label →
      p.holds (-number.magnitude) = true →
      Reference scope p (.neg (.integer number place inner) span) (-number.magnitude) .whole
  | neg {p operand span a kept} :
      p.isSigned = true → isLiteral operand = false → Reference scope p operand a kept →
      p.holds (-a) = true → Reference scope p (.neg operand span) (-a) kept
  | binary {p op left right span a b v kept kept'} :
      Reference scope p left a kept → Reference scope p right b kept' → Operates p op a b v →
      Reference scope p (.binary op left right span) v (Kept.ofOp op a b kept kept')
  | shift {p q op left right span a places v kept kept'} :
      Reference scope p left a kept → Reference scope q right places kept' → Shifts p op a places v →
      Reference scope p (.binary op left right span) v (Kept.ofShift p op a places kept kept')
  | cast {p q operand target span a kept} :
      Reference scope p operand a kept → target.primitive? = some q →
      Reference scope q (.cast operand target span) (q.wrap a) (kept.settled q.bits)
  | least {p path span} : path.names = [p.label, "MIN"] →
      Reference scope p (.path path span) p.least .whole
  | greatest {p path span} : path.names = [p.label, "MAX"] →
      Reference scope p (.path path span) p.greatest .whole
  | path {p path span key v kept} :
      boundOf? path = none → keyOf? scope.type path = some key →
      ReferenceKey scope key (.scalar p) v kept → Reference scope p (.path path span) v kept
  | field {path inner span key v kept} :
      keyOf? scope.type path = some key → ReferenceKey scope key .group v kept →
      Reference scope scope.repr (.field (.path path inner) 0 span) v kept
  | paren {p inner span v kept} :
      Reference scope p inner v kept → Reference scope p (.paren inner span) v kept

/-- **The value of an initializer of the type.**  Its range was looked at, which settles it if all bits of
the type are shared. -/
inductive ReferenceGroup (scope : Scope) : Expr → Int → Kept → Prop
  | call {function argument span v kept} :
      isConstructor scope.type function = true → Reference scope scope.repr argument v kept →
      ReferenceGroup scope (.call function argument span) v (kept.settled scope.repr.bits)
  | path {path span key v kept} :
      keyOf? scope.type path = some key → ReferenceKey scope key .group v kept →
      ReferenceGroup scope (.path path span) v kept
  | paren {inner span v kept} :
      ReferenceGroup scope inner v kept → ReferenceGroup scope (.paren inner span) v kept

/-- **The value of a constant**, by its kind. -/
inductive ReferenceKey (scope : Scope) : Key → Kind → Int → Kept → Prop
  | group {key initializer v kept} :
      scope.candidates.find? key = some ⟨.group, initializer⟩ →
      ReferenceGroup scope initializer v kept → ReferenceKey scope key .group v kept
  | scalar {key p initializer v kept} :
      scope.candidates.find? key = some ⟨.scalar p, initializer⟩ →
      Reference scope p initializer v kept →
      ReferenceKey scope key (.scalar p) v (kept.settled p.bits)

end

variable {scope : Scope}

/-! ## Values are in range -/

/-- The primitive whose values a constant has. -/
def Scope.primitiveOf (scope : Scope) : Kind → Primitive
  | .group => scope.repr
  | .scalar p => p

lemma Operates.holds {p : Primitive} {op : BinaryOp} {a b v : Int} (h : Operates p op a b v)
    (ha : p.holds a = true) : p.holds v = true := by
  cases h with
  | add h | sub h | mul h | div _ h => exact h
  | rem => exact Primitive.holds_tmod b ha
  | bitAnd | bitOr | bitXor => exact p.holds_ofWord _

lemma Shifts.holds {p : Primitive} {op : BinaryOp} {a places v : Int} (h : Shifts p op a places v) :
    p.holds v = true := by
  cases h with
  | shl | shr => exact p.holds_ofWord _

mutual

/-- **The value of an expression is one of its type.** -/
theorem Reference.holds {p : Primitive} {e : Expr} {v : Int} {kept : Kept} :
    Reference scope p e v kept → p.holds v = true
  | .literal _ h | .negLiteral _ _ h | .neg _ _ _ h => h
  | .binary hl _ h => h.holds hl.holds
  | .shift _ _ h => h.holds
  | .cast _ _ => Primitive.holds_wrap _ _
  | .least _ => Primitive.holds_least _
  | .greatest _ => Primitive.holds_greatest _
  | .path _ _ h => h.holds
  | .field _ h => h.holds
  | .paren h => h.holds

theorem ReferenceGroup.holds {e : Expr} {v : Int} {kept : Kept} :
    ReferenceGroup scope e v kept → scope.repr.holds v = true
  | .call _ h => h.holds
  | .path _ h => h.holds
  | .paren h => h.holds

theorem ReferenceKey.holds {key : Key} {kind : Kind} {v : Int} {kept : Kept} :
    ReferenceKey scope key kind v kept → (scope.primitiveOf kind).holds v = true
  | .group _ h => h.holds
  | .scalar _ h => h.holds

end

/-! ## Without shifts to the left -/

/-- Whether nothing is shifted to the left in an expression. -/
def keepsBits : Expr → Bool
  | .neg operand _ | .cast operand _ _ | .paren operand _ | .call _ operand _ => keepsBits operand
  | .binary op left right _ => op != .shl && keepsBits left && keepsBits right
  | _ => true

lemma Shifts.whole {p : Primitive} {op : BinaryOp} {a places v : Int} (h : Shifts p op a places v)
    (hop : (op != .shl) = true) : Kept.ofShift p op a places .whole .whole = .whole := by
  cases h with
  | shl => simp at hop
  | shr => rfl

/-- The initializer of a constant keeps its bits. -/
def Scope.KeepsBits (scope : Scope) : Prop :=
  ∀ key candidate, scope.candidates.find? key = some candidate → keepsBits candidate.value = true

mutual

/-- **Everything is shared where nothing is shifted to the left**, here and in all constants. -/
theorem Reference.whole (hs : scope.KeepsBits) {p : Primitive} {e : Expr} {v : Int} {kept : Kept} :
    Reference scope p e v kept → keepsBits e = true → kept = .whole
  | .literal _ _, _ | .negLiteral _ _ _, _ | .least _, _ | .greatest _, _ => rfl
  | .neg _ _ h _, he => h.whole hs he
  | .binary hl hr _, he => by
      simp only [keepsBits, Bool.and_eq_true] at he
      rw [hl.whole hs he.1.2, hr.whole hs he.2, Kept.ofOp_whole]
  | .shift hl hr h, he => by
      simp only [keepsBits, Bool.and_eq_true] at he
      rw [hl.whole hs he.1.2, hr.whole hs he.2, h.whole he.1.1]
  | .cast h _, he => by rw [h.whole hs he, Kept.settled_whole]
  | .path _ _ h, _ => h.whole hs
  | .field _ h, _ => h.whole hs
  | .paren h, he => h.whole hs he

theorem ReferenceGroup.whole (hs : scope.KeepsBits) {e : Expr} {v : Int} {kept : Kept} :
    ReferenceGroup scope e v kept → keepsBits e = true → kept = .whole
  | .call _ h, he => by rw [h.whole hs he, Kept.settled_whole]
  | .path _ h, _ => h.whole hs
  | .paren h, he => h.whole hs he

theorem ReferenceKey.whole (hs : scope.KeepsBits) {key : Key} {kind : Kind} {v : Int} {kept : Kept} :
    ReferenceKey scope key kind v kept → kept = .whole
  | .group hf h => h.whole hs (hs _ _ hf)
  | .scalar hf h => by rw [h.whole hs (hs _ _ hf), Kept.settled_whole]

end

end EnumTables.Constants
