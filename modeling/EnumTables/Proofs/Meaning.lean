import EnumTables.Constants.Evaluation
import EnumTables.Proofs.WideArithmetic
import Mathlib.Logic.Relation

/-!
# What constants mean

The values of constants, said without a memo and without a list of constants in progress: a constant has a
value if a finite derivation says so.

* `Yields` — the operators, on unbounded integers and with the bounds of the wide ones.
* `KeyMeans`, `GroupMeans`, `IntegerMeans` — the value of a constant, of an initializer of the type and of
  an integer expression.
* `KeyMeans.unique` — there is at most one value.
* `Scope.Refers` — a constant refers to another one.
* `KeyMeans.not_cyclic` — a constant with a value does not refer to itself, however many constants lie
  between.
-/

namespace EnumTables.Constants

open EnumTables.Number EnumTables.Source EnumTables.Token Relation

/-! ## Operators -/

/-- **The result of an operator.**  Arithmetic is exact and has to fit, a divisor is not zero, and a shift
goes by fewer than 128 places. -/
inductive Yields : BinaryOp → Int → Int → Int → Prop
  | add {a b} : Wide.Fits (a + b) → Yields .add a b (a + b)
  | sub {a b} : Wide.Fits (a - b) → Yields .sub a b (a - b)
  | mul {a b} : Wide.Fits (a * b) → Yields .mul a b (a * b)
  | div {a b} : b ≠ 0 → Wide.Fits (a.tdiv b) → Yields .div a b (a.tdiv b)
  | rem {a b} : b ≠ 0 → Wide.Fits (a.tdiv b) → Yields .rem a b (a.tmod b)
  | bitAnd {a b} : Yields .bitAnd a b (Wide.and a b)
  | bitOr {a b} : Yields .bitOr a b (Wide.or a b)
  | bitXor {a b} : Yields .bitXor a b (Wide.xor a b)
  | shl {a b} : 0 ≤ b ∧ b < 128 → Wide.Fits (a * 2 ^ b.toNat) → Yields .shl a b (a * 2 ^ b.toNat)
  | shr {a b} : 0 ≤ b ∧ b < 128 → Yields .shr a b (a / 2 ^ b.toNat)

lemma Yields.unique {op : BinaryOp} {a b v w : Int} (hv : Yields op a b v) (hw : Yields op a b w) :
    v = w := by
  cases hv <;> cases hw <;> rfl

lemma Yields.fits {op : BinaryOp} {a b v : Int} (h : Yields op a b v) (ha : Wide.Fits a) :
    Wide.Fits v := by
  cases h with
  | add h | sub h | mul h | div _ h | shl _ h => exact h
  | rem => exact Wide.fits_tmod _ ha
  | bitAnd => exact Wide.fits_and _ _
  | bitOr => exact Wide.fits_or _ _
  | bitXor => exact Wide.fits_xor _ _
  | shr => exact Wide.fits_div_pow _ ha

/-! ## Meanings -/

/-- Whether an expression is a literal, on which a minus has its own rule. -/
def isLiteral : Expr → Bool
  | .integer .. => true
  | _ => false

/-- A value lies in the range of the primitive which a suffix names, if it names one. -/
def SuffixAllows (suffix : String) (value : Int) : Prop :=
  ∀ type, Primitive.ofLabel? suffix = some type → type.holds value = true

instance (suffix : String) (value : Int) : Decidable (SuffixAllows suffix value) :=
  decidable_of_iff ((Primitive.ofLabel? suffix).all (·.holds value) = true)
    (by rw [Option.all_eq_true]; rfl)

mutual

/-- **The value of a constant**: that of its last declaration, within the range of its type. -/
inductive KeyMeans (scope : Scope) : Key → Int → Prop
  | group {key initializer v} :
      scope.candidates.find? key = some ⟨.group, initializer⟩ → GroupMeans scope initializer v →
      KeyMeans scope key v
  | scalar {key type initializer v} :
      scope.candidates.find? key = some ⟨.scalar type, initializer⟩ →
      IntegerMeans scope initializer v → type.holds v = true → KeyMeans scope key v

/-- **The value of an initializer of the type.** -/
inductive GroupMeans (scope : Scope) : Expr → Int → Prop
  | call {function argument span v} :
      isConstructor scope.type function = true → IntegerMeans scope argument v →
      scope.repr.holds v = true → GroupMeans scope (.call function argument span) v
  | path {path span key v} :
      keyOf? scope.type path = some key → scope.isGroup key = true → KeyMeans scope key v →
      GroupMeans scope (.path path span) v
  | paren {inner span v} : GroupMeans scope inner v → GroupMeans scope (.paren inner span) v

/-- **The value of an integer expression.** -/
inductive IntegerMeans (scope : Scope) : Expr → Int → Prop
  | literal {number place span} :
      Wide.Fits number.magnitude → SuffixAllows number.suffix number.magnitude →
      IntegerMeans scope (.integer number place span) number.magnitude
  | negLiteral {number place inner span} :
      Wide.Fits number.magnitude → SuffixAllows number.suffix (-number.magnitude) →
      IntegerMeans scope (.neg (.integer number place inner) span) (-number.magnitude)
  | neg {operand span a} :
      isLiteral operand = false → IntegerMeans scope operand a → Wide.Fits (-a) →
      IntegerMeans scope (.neg operand span) (-a)
  | binary {op left right span a b v} :
      IntegerMeans scope left a → IntegerMeans scope right b → Yields op a b v →
      IntegerMeans scope (.binary op left right span) v
  | cast {operand target span type a v} :
      IntegerMeans scope operand a → target.primitive? = some type → type.holds v = true →
      v ≡ a [ZMOD 2 ^ type.bits] → IntegerMeans scope (.cast operand target span) v
  | bound {path span v} : boundOf? path = some v → IntegerMeans scope (.path path span) v
  | path {path span key v} :
      boundOf? path = none → keyOf? scope.type path = some key → scope.isGroup key = false →
      KeyMeans scope key v → IntegerMeans scope (.path path span) v
  | field {path inner span key v} :
      keyOf? scope.type path = some key → scope.isScalar key = false → KeyMeans scope key v →
      IntegerMeans scope (.field (.path path inner) 0 span) v
  | paren {inner span v} : IntegerMeans scope inner v → IntegerMeans scope (.paren inner span) v

end

variable {scope : Scope}

/-! ## Values are unique -/

mutual

/-- **A constant has at most one value.** -/
theorem KeyMeans.unique {key : Key} {v w : Int} : KeyMeans scope key v → KeyMeans scope key w → v = w
  | .group hv mv, .group hw mw => by
      rw [hv] at hw
      cases hw
      exact mv.unique mw
  | .scalar hv mv _, .scalar hw mw _ => by
      rw [hv] at hw
      cases hw
      exact mv.unique mw
  | .group hv _, .scalar hw _ _ => by simp [hv] at hw
  | .scalar hv _ _, .group hw _ => by simp [hv] at hw

theorem GroupMeans.unique {e : Expr} {v w : Int} : GroupMeans scope e v → GroupMeans scope e w → v = w
  | .call _ mv _, .call _ mw _ => mv.unique mw
  | .path hv _ mv, .path hw _ mw => by
      rw [hv] at hw
      cases hw
      exact mv.unique mw
  | .paren mv, .paren mw => mv.unique mw

theorem IntegerMeans.unique {e : Expr} {v w : Int} :
    IntegerMeans scope e v → IntegerMeans scope e w → v = w
  | .literal _ _, .literal _ _ => rfl
  | .negLiteral _ _, .negLiteral _ _ => rfl
  | .negLiteral _ _, .neg h _ _ => by simp [isLiteral] at h
  | .neg h _ _, .negLiteral _ _ => by simp [isLiteral] at h
  | .neg _ mv _, .neg _ mw _ => by rw [mv.unique mw]
  | .binary mv mv' yv, .binary mw mw' yw => by
      rw [mv.unique mw, mv'.unique mw'] at yv
      exact yv.unique yw
  | .cast mv tv rv cv, .cast mw tw rw' cw => by
      rw [tv] at tw
      cases tw
      rw [mv.unique mw] at cv
      rw [Primitive.eq_wrap_of_modEq rv cv, Primitive.eq_wrap_of_modEq rw' cw]
  | .bound hv, .bound hw => by simpa [hv] using hw
  | .bound hv, .path hw _ _ _ => by simp [hv] at hw
  | .path hv _ _ _, .bound hw => by simp [hv] at hw
  | .path _ hv _ mv, .path _ hw _ mw => by
      rw [hv] at hw
      cases hw
      exact mv.unique mw
  | .field hv _ mv, .field hw _ mw => by
      rw [hv] at hw
      cases hw
      exact mv.unique mw
  | .paren mv, .paren mw => mv.unique mw

end

/-! ## Values are in range -/

lemma isGroup_iff {key : Key} :
    scope.isGroup key = true ↔ ∃ e, scope.candidates.find? key = some ⟨.group, e⟩ := by
  rw [Scope.isGroup, Candidates.kind?]
  rcases scope.candidates.find? key with _ | ⟨_ | _, e⟩ <;> simp

mutual

/-- **The value of a constant of the type is one of the primitive which the type wraps**, also where the
constant is another name for one whose range was looked at. -/
theorem KeyMeans.holds_of_isGroup {key : Key} {v : Int} :
    KeyMeans scope key v → scope.isGroup key = true → scope.repr.holds v = true
  | .group _ h, _ => h.holds
  | .scalar hf _ _, hg => by simp [isGroup_iff, hf] at hg

theorem GroupMeans.holds {e : Expr} {v : Int} : GroupMeans scope e v → scope.repr.holds v = true
  | .call _ _ hv => hv
  | .path _ hg h => h.holds_of_isGroup hg
  | .paren h => h.holds

end

lemma KeyMeans.declared {key : Key} {v : Int} (h : KeyMeans scope key v) :
    ∃ candidate, scope.candidates.find? key = some candidate := by
  cases h with
  | group hf _ => exact ⟨_, hf⟩
  | scalar hf _ _ => exact ⟨_, hf⟩

lemma KeyMeans.fits {key : Key} {v : Int} (h : KeyMeans scope key v) : Wide.Fits v := by
  cases h with
  | group _ h => exact Primitive.fits_of_holds h.holds
  | scalar _ _ hv => exact Primitive.fits_of_holds hv

/-- A path names a bound if it consists of a primitive and of a word for the bound. -/
lemma boundOf?_eq_some_iff {path : Path} {v : Int} :
    boundOf? path = some v ↔ ∃ type : Primitive,
      (path.names = [type.label, "MIN"] ∧ v = type.least) ∨
        (path.names = [type.label, "MAX"] ∧ v = type.greatest) := by
  unfold boundOf?
  constructor
  · intro h
    split at h
    · rename_i label bound hnames
      simp only [Option.bind_eq_bind, Option.bind_eq_some_iff, Primitive.ofLabel?_eq_some_iff] at h
      obtain ⟨type, rfl, h⟩ := h
      refine ⟨type, ?_⟩
      split_ifs at h with hmin hmax
      · cases h
        exact .inl ⟨hmin ▸ hnames, rfl⟩
      · cases h
        exact .inr ⟨hmax ▸ hnames, rfl⟩
    · cases h
  · rintro ⟨type, ⟨hnames, rfl⟩ | ⟨hnames, rfl⟩⟩
    · simp [hnames, Primitive.ofLabel?_label]
    · simp [hnames, Primitive.ofLabel?_label]

lemma fits_bound {path : Path} {v : Int} (h : boundOf? path = some v) : Wide.Fits v := by
  obtain ⟨type, ⟨-, rfl⟩ | ⟨-, rfl⟩⟩ := boundOf?_eq_some_iff.mp h
  · exact Primitive.fits_of_holds type.holds_least
  · exact Primitive.fits_of_holds type.holds_greatest

/-- The value of an integer expression has 128 bits. -/
theorem IntegerMeans.fits {e : Expr} {v : Int} : IntegerMeans scope e v → Wide.Fits v
  | .literal h _ => h
  | .negLiteral h _ => by
      rw [Wide.fits_iff] at h ⊢
      omega
  | .neg _ _ h => h
  | .binary h _ y => y.fits h.fits
  | .cast _ _ h _ => Primitive.fits_of_holds h
  | .bound h => fits_bound h
  | .path _ _ _ h | .field _ _ h => h.fits
  | .paren h => h.fits

/-! ## References -/

/-- The constants which an integer expression refers to. -/
def integerReferences (type : String) : Expr → List Key
  | .neg operand _ | .cast operand _ _ | .paren operand _ => integerReferences type operand
  | .binary _ left right _ => integerReferences type left ++ integerReferences type right
  | .path path _ => if (boundOf? path).isSome then [] else (keyOf? type path).toList
  | .field (.path path _) 0 _ => (keyOf? type path).toList
  | _ => []

/-- The constants which an initializer of the type refers to. -/
def groupReferences (type : String) : Expr → List Key
  | .call _ argument _ => integerReferences type argument
  | .path path _ => (keyOf? type path).toList
  | .paren inner _ => groupReferences type inner
  | _ => []

/-- The constants which the initializer of a constant refers to. -/
def Candidate.references (type : String) (candidate : Candidate) : List Key :=
  match candidate.kind with
  | .group => groupReferences type candidate.value
  | .scalar _ => integerReferences type candidate.value

/-- **A constant refers to another one** in its initializer. -/
def Scope.Refers (scope : Scope) (key other : Key) : Prop :=
  ∃ candidate, scope.candidates.find? key = some candidate ∧ other ∈ candidate.references scope.type

mutual

/-- What a constant with a value refers to ends somewhere: its derivation holds those of all constants
which it refers to. -/
theorem KeyMeans.acc {key : Key} {v : Int} : KeyMeans scope key v → Acc (Function.swap scope.Refers) key
  | .group hf h => .intro _ fun other ⟨candidate, hc, ho⟩ => by
      rw [hf] at hc
      cases hc
      exact h.acc other ho
  | .scalar hf h _ => .intro _ fun other ⟨candidate, hc, ho⟩ => by
      rw [hf] at hc
      cases hc
      exact h.acc other ho

theorem GroupMeans.acc {e : Expr} {v : Int} : GroupMeans scope e v →
    ∀ other ∈ groupReferences scope.type e, Acc (Function.swap scope.Refers) other
  | .call _ h _, other, ho => h.acc other ho
  | .path hk _ h, other, ho => by
      simp only [groupReferences, hk, Option.toList_some, List.mem_singleton] at ho
      exact ho ▸ h.acc
  | .paren h, other, ho => h.acc other ho

theorem IntegerMeans.acc {e : Expr} {v : Int} : IntegerMeans scope e v →
    ∀ other ∈ integerReferences scope.type e, Acc (Function.swap scope.Refers) other
  | .literal _ _, other, ho => by simp [integerReferences] at ho
  | .negLiteral _ _, other, ho => by simp [integerReferences] at ho
  | .neg _ h _, other, ho => h.acc other ho
  | .binary h h' _, other, ho => by
      rcases List.mem_append.mp ho with ho | ho
      · exact h.acc other ho
      · exact h'.acc other ho
  | .cast h _ _ _, other, ho => h.acc other ho
  | .bound hb, other, ho => by simp [integerReferences, hb] at ho
  | .path hb hk _ h, other, ho => by
      simp only [integerReferences, hb, hk, Option.isSome_none, Bool.false_eq_true, if_false,
        Option.toList_some, List.mem_singleton] at ho
      exact ho ▸ h.acc
  | .field hk _ h, other, ho => by
      simp only [integerReferences, hk, Option.toList_some, List.mem_singleton] at ho
      exact ho ▸ h.acc
  | .paren h, other, ho => h.acc other ho

end

/-- What refers to itself, however many lie between, is not accessible. -/
lemma not_transGen_self_of_acc {α : Type} {r : α → α → Prop} {a : α} (h : Acc (Function.swap r) a) :
    ¬ TransGen r a a := by
  have hacc : Acc (TransGen (Function.swap r)) a := h.transGen
  clear h
  rw [← transGen_swap]
  induction hacc with
  | intro a _ ih => exact fun hcycle => ih a hcycle hcycle

/-- What a constant with a value reaches ends somewhere, too. -/
lemma KeyMeans.acc_of_reaches {key other : Key} {v : Int} (h : KeyMeans scope key v)
    (hr : ReflTransGen scope.Refers key other) : Acc (Function.swap scope.Refers) other := by
  induction hr with
  | refl => exact h.acc
  | tail _ hstep ih => exact ih.inv hstep

/-- **A constant with a value does not refer to itself**, however many constants lie between. -/
theorem KeyMeans.not_cyclic {key : Key} {v : Int} (h : KeyMeans scope key v) :
    ¬ TransGen scope.Refers key key := not_transGen_self_of_acc h.acc

end EnumTables.Constants
