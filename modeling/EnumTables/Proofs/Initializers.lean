import EnumTables.Proofs.Runs

/-!
# Initializers are put together from the constants they refer to

The evaluation of an initializer is a sequence of evaluations of the constants which it refers to, with
arithmetic in between that looks at no memo.  So whatever goes along with sequences and holds of the constants
holds of the initializer; no proof behind this module goes through the kinds of expressions for that again.

* `Composed` — a relation between evaluations which goes along with values, failures and sequences.  It also
  says which constants are referred to, in order.
* `Composed.integer`, `Composed.group`, `Composed.initializer` — such a relation holds of initializers whose
  references are related.
* `Composed.initializer_self` — the same for what is said about one evaluation.
-/

namespace EnumTables.Constants

open EnumTables.Number EnumTables.Source EnumTables.Token

/-- Whether a fault is a cycle of constants. -/
def Fault.isCycle : Fault → Bool
  | .cycle _ => true
  | _ => false

/-- **A relation between evaluations which refer to constants**, and which goes along with how initializers
are put together.  No part of an initializer finds a cycle by itself. -/
structure Composed (Related : List Key → Eval Int → Eval Int → Prop) : Prop where
  value : ∀ v, Related [] (pure v) (pure v)
  failure : ∀ keys fault span, fault.isCycle = false →
    Related keys (failAt fault span) (failAt fault span)
  sequence : ∀ {keys more x y f g}, Related keys x y → (∀ v, Related more (f v) (g v)) →
    Related (keys ++ more) (x >>= f) (y >>= g)

namespace Composed

variable {Related : List Key → Eval Int → Eval Int → Prop} {scope : Scope}
  {resolve resolve' : Key → Span → Eval Int}

/-! ## Parts of expressions -/

/-- Behind the references, a relation goes along with what refers to nothing. -/
lemma before (hR : Composed Related) {keys : List Key} {x y : Eval Int} {f g : Int → Eval Int}
    (h : Related keys x y) (hf : ∀ v, Related [] (f v) (g v)) : Related keys (x >>= f) (y >>= g) :=
  List.append_nil keys ▸ hR.sequence h hf

lemma orFail (hR : Composed Related) (value? : Option Int) {fault : Fault} (span : Span)
    (hf : fault.isCycle = false) : Related [] (orFail value? fault span) (orFail value? fault span) := by
  cases value? with
  | none => exact hR.failure [] fault span hf
  | some value => exact hR.value value

lemma inRange (hR : Composed Related) (type : Primitive) (value : Int) (span : Span) :
    Related [] (inRange type value span) (inRange type value span) := by
  unfold Constants.inRange
  split_ifs
  · exact hR.value value
  · exact hR.failure [] _ span rfl

lemma suffixed (hR : Composed Related) (suffix : String) (value : Int) (span : Span) :
    Related [] (suffixed suffix value span) (suffixed suffix value span) := by
  unfold Constants.suffixed
  split
  · exact hR.inRange _ value span
  · exact hR.value value

lemma literalValue (hR : Composed Related) (number : IntegerLiteral) (negative : Bool) (place span : Span) :
    Related [] (literalValue number negative place span) (literalValue number negative place span) := by
  refine hR.before (hR.orFail _ place rfl) fun magnitude => ?_
  cases negative with
  | false => exact hR.suffixed number.suffix magnitude span
  | true => exact hR.before (hR.orFail _ span rfl) fun value => hR.suffixed number.suffix value span

lemma applyOp (hR : Composed Related) (op : BinaryOp) (a b : Int) (span : Span) :
    Related [] (applyOp op a b span) (applyOp op a b span) := by
  cases op with
  | add | sub | mul | shl | shr => exact hR.orFail _ span rfl
  | div | rem =>
      simp only [Constants.applyOp]
      split_ifs
      · exact hR.failure [] _ span rfl
      · exact hR.orFail _ span rfl
  | bitAnd | bitOr | bitXor => exact hR.value _
  | other => exact hR.failure [] _ span rfl

/-! ## Initializers -/

/-- **An integer expression is related to itself**, if the constants which it refers to are related. -/
theorem integer (hR : Composed Related) {e : Expr}
    (hr : ∀ key ∈ integerReferences scope.type e, ∀ span, Related [key] (resolve key span) (resolve' key span)) :
    Related (integerReferences scope.type e) (scope.integer resolve e) (scope.integer resolve' e) := by
  induction e with
  | integer number place span =>
      simp only [Scope.integer]
      exact hR.literalValue number false place span
  | neg operand span ih =>
      cases hl : isLiteral operand
      · rw [integer_neg hl, integer_neg hl]
        exact hR.before (ih hr) fun a => hR.orFail _ span rfl
      · cases operand <;> simp only [isLiteral, Bool.false_eq_true] at hl
        simp only [Scope.integer]
        exact hR.literalValue _ true _ span
  | binary op left right span ihl ihr =>
      simp only [Scope.integer]
      have hleft := ihl fun key hk => hr key (List.mem_append_left _ hk)
      have hright := ihr fun key hk => hr key (List.mem_append_right _ hk)
      exact hR.sequence hleft fun a => hR.before hright fun b => hR.applyOp op a b span
  | cast operand target span ih =>
      simp only [Scope.integer]
      exact hR.before (ih hr) fun a => hR.orFail _ span rfl
  | path path span =>
      simp only [Scope.integer, integerReferences] at hr ⊢
      rcases hb : boundOf? path with _ | bound
      · rcases hk : keyOf? scope.type path with _ | key
        · exact hR.failure _ _ span rfl
        · cases hg : scope.isGroup key
          · simp only [hg, Bool.false_eq_true, if_false]
            exact hr key (by simp [hb, hk]) span
          · simp only [hg, if_true]
            exact hR.failure _ _ span rfl
      · exact hR.value bound
  | field base index span =>
      by_cases h : ∃ path inner, base = .path path inner ∧ index = 0
      · obtain ⟨path, inner, rfl, rfl⟩ := h
        simp only [Scope.integer, integerReferences] at hr ⊢
        rcases hk : keyOf? scope.type path with _ | key
        · exact hR.failure _ _ span rfl
        · cases hs : scope.isScalar key
          · simp only [hs, Bool.false_eq_true, if_false]
            exact hr key (by simp [hk]) span
          · simp only [hs, if_true]
            exact hR.failure _ _ span rfl
      · have hne : ∀ path inner, base = .path path inner → index = 0 → False :=
          fun path inner hb hi => h ⟨path, inner, hb, hi⟩
        rw [Scope.integer.eq_8 _ _ _ _ _ hne, Scope.integer.eq_8 _ _ _ _ _ hne]
        exact hR.failure _ _ span rfl
  | paren inner span ih =>
      simp only [Scope.integer]
      exact ih hr
  | call | block | range | other =>
      simp only [Scope.integer]
      exact hR.failure _ _ _ rfl

/-- **An initializer of the type is related to itself**, if the constants which it refers to are related. -/
theorem group (hR : Composed Related) {e : Expr}
    (hr : ∀ key ∈ groupReferences scope.type e, ∀ span, Related [key] (resolve key span) (resolve' key span)) :
    Related (groupReferences scope.type e) (scope.group resolve e) (scope.group resolve' e) := by
  induction e with
  | call function argument span =>
      simp only [Scope.group]
      split_ifs
      · exact hR.before (hR.integer hr) fun a => hR.inRange _ a _
      · exact hR.failure _ _ span rfl
  | path path span =>
      simp only [Scope.group, groupReferences] at hr ⊢
      rcases hk : keyOf? scope.type path with _ | key
      · exact hR.failure _ _ span rfl
      · cases hg : scope.isGroup key
        · simp only [hg, Bool.false_eq_true, if_false]
          exact hR.failure _ _ span rfl
        · simp only [hg, if_true]
          exact hr key (by simp [hk]) span
  | paren inner span ih =>
      simp only [Scope.group]
      exact ih hr
  | _ =>
      simp only [Scope.group]
      exact hR.failure _ _ _ rfl

/-- **The initializer of a constant is related to itself**, if the constants which it refers to are
related. -/
theorem initializer (hR : Composed Related) {candidate : Candidate}
    (hr : ∀ key ∈ candidate.references scope.type, ∀ span,
      Related [key] (resolve key span) (resolve' key span)) :
    Related (candidate.references scope.type) (scope.initializer resolve candidate)
      (scope.initializer resolve' candidate) := by
  obtain ⟨kind, initializer⟩ := candidate
  cases kind with
  | group => exact hR.group hr
  | scalar type => exact hR.before (hR.integer hr) fun a => hR.inRange type a _

/-- What is said about one evaluation and holds of the constants which an initializer refers to holds of the
initializer. -/
theorem initializer_self (hR : Composed Related) {candidate : Candidate}
    (hr : ∀ key ∈ candidate.references scope.type, ∀ span,
      Related [key] (resolve key span) (resolve key span)) :
    Related (candidate.references scope.type) (scope.initializer resolve candidate)
      (scope.initializer resolve candidate) := hR.initializer hr

end Composed

end EnumTables.Constants
