import EnumTables.Proofs.Meaning

/-!
# Runs of evaluations which succeed

An evaluation takes a memo, and gives a value and a memo if it succeeds.  Each part of the evaluation has
one lemma here which says when a run of it succeeds and with what; the proofs behind this module cite these
lemmas and do not look into the definitions.

* `run_bind_eq_ok`, `run_orFail_eq_ok`, `run_inRange_eq_ok` — evaluations in general.
* `run_literalValue_eq_ok`, `run_applyOp_eq_ok` — the parts of expressions, in terms of `SuffixAllows` and
  `Yields`.
* `run_neg_eq_ok`, `run_path_eq_ok`, `run_field_eq_ok`, `run_alias_eq_ok` — expressions with rules of
  their own.
* `Scope.constant`, `run_constant_eq_ok` — the evaluation of one constant, and all that can happen there.
-/

namespace EnumTables.Constants

open EnumTables.Number EnumTables.Source EnumTables.Token

variable {α β : Type} {memo after : Memo}

/-! ## Evaluations in general -/

lemma run_pure_eq_ok {a b : α} :
    (pure a : Eval α).run memo = .ok (b, after) ↔ b = a ∧ after = memo := by
  rw [StateT.run_pure]
  simp only [pure, Except.pure, Except.ok.injEq, Prod.mk.injEq, eq_comm]

lemma run_bind_eq_ok {x : Eval α} {f : α → Eval β} {b : β} :
    (x >>= f).run memo = .ok (b, after) ↔
      ∃ a between, x.run memo = .ok (a, between) ∧ (f a).run between = .ok (b, after) := by
  rw [StateT.run_bind]
  rcases x.run memo with failure | ⟨a, between⟩
  · simp [bind, Except.bind]
  · simp [bind, Except.bind]

/-- A sequence fails where its first part does, or where its second part does behind the first. -/
lemma run_bind_eq_error {x : Eval α} {f : α → Eval β} {failure : Failure} :
    (x >>= f).run memo = .error failure ↔
      x.run memo = .error failure ∨
        ∃ a between, x.run memo = .ok (a, between) ∧ (f a).run between = .error failure := by
  rw [StateT.run_bind]
  rcases x.run memo with failure | ⟨a, between⟩
  · simp [bind, Except.bind]
  · simp [bind, Except.bind]

lemma run_pure_eq_error {a : α} {failure : Failure} :
    (pure a : Eval α).run memo = .error failure ↔ False := by
  rw [StateT.run_pure]
  simp only [pure, Except.pure, reduceCtorEq]

lemma run_failAt_eq_ok {fault : Fault} {span : Span} {r : α × Memo} :
    (failAt fault span : Eval α).run memo = .ok r ↔ False := by
  simp [failAt, throw, throwThe, MonadExceptOf.throw, StateT.run, StateT.lift, bind, Except.bind]

lemma run_orFail_eq_ok {value? : Option Int} {fault : Fault} {span : Span} {v : Int} :
    (orFail value? fault span).run memo = .ok (v, after) ↔ value? = some v ∧ after = memo := by
  cases value? with
  | none => simp only [orFail, run_failAt_eq_ok, reduceCtorEq, false_and]
  | some value =>
      simp only [orFail, run_pure_eq_ok, Option.some.injEq]
      rw [eq_comm]

lemma run_inRange_eq_ok {type : Primitive} {value v : Int} {span : Span} :
    (inRange type value span).run memo = .ok (v, after) ↔
      type.holds value = true ∧ v = value ∧ after = memo := by
  unfold inRange
  split_ifs with h
  · simp only [run_pure_eq_ok, h, true_and]
  · simp only [run_failAt_eq_ok, h, Bool.false_eq_true, false_and]

/-! ## Parts of expressions -/

lemma run_suffixed_eq_ok {suffix : String} {value v : Int} {span : Span} :
    (suffixed suffix value span).run memo = .ok (v, after) ↔
      SuffixAllows suffix value ∧ v = value ∧ after = memo := by
  unfold suffixed SuffixAllows
  rcases Primitive.ofLabel? suffix with _ | type
  · simp only [run_pure_eq_ok, reduceCtorEq, false_implies, implies_true, true_and]
  · simp only [run_inRange_eq_ok, Option.some.injEq, forall_eq']

/-- A literal has the value of its magnitude, which has to fit and to be in the range of the suffix. -/
lemma run_literalValue_eq_ok {number : IntegerLiteral} {place span : Span} {v : Int} :
    (literalValue number false place span).run memo = .ok (v, after) ↔
      (Wide.Fits number.magnitude ∧ SuffixAllows number.suffix number.magnitude) ∧
        v = number.magnitude ∧ after = memo := by
  simp only [literalValue, Bool.false_eq_true, if_false, pure_bind, run_bind_eq_ok, run_orFail_eq_ok,
    Wide.fit?_eq_some_iff, run_suffixed_eq_ok]
  constructor
  · rintro ⟨_, _, ⟨⟨hf, rfl⟩, rfl⟩, hs, rfl, rfl⟩
    exact ⟨⟨hf, hs⟩, rfl, rfl⟩
  · rintro ⟨⟨hf, hs⟩, rfl, rfl⟩
    exact ⟨_, _, ⟨⟨hf, rfl⟩, rfl⟩, hs, rfl, rfl⟩

/-- Behind a minus, the magnitude has to fit before it is negated, and the suffix is looked at after. -/
lemma run_negLiteralValue_eq_ok {number : IntegerLiteral} {place span : Span} {v : Int} :
    (literalValue number true place span).run memo = .ok (v, after) ↔
      (Wide.Fits number.magnitude ∧ SuffixAllows number.suffix (-number.magnitude)) ∧
        v = -number.magnitude ∧ after = memo := by
  simp only [literalValue, if_true, run_bind_eq_ok, run_orFail_eq_ok, Wide.neg?, Wide.fit?_eq_some_iff,
    run_suffixed_eq_ok]
  constructor
  · rintro ⟨_, _, ⟨⟨hf, rfl⟩, rfl⟩, _, _, ⟨⟨-, rfl⟩, rfl⟩, hs, rfl, rfl⟩
    exact ⟨⟨hf, hs⟩, rfl, rfl⟩
  · rintro ⟨⟨hf, hs⟩, rfl, rfl⟩
    have hneg : Wide.Fits (-(number.magnitude : Int)) := by
      rw [Wide.fits_iff] at hf ⊢
      omega
    exact ⟨_, _, ⟨⟨hf, rfl⟩, rfl⟩, _, _, ⟨⟨hneg, rfl⟩, rfl⟩, hs, rfl, rfl⟩

/-- An operator gives what it yields, and leaves the memo alone. -/
lemma run_applyOp_eq_ok {op : BinaryOp} {a b v : Int} {span : Span} (ha : Wide.Fits a) :
    (applyOp op a b span).run memo = .ok (v, after) ↔ Yields op a b v ∧ after = memo := by
  cases op with
  | add =>
      simp only [applyOp, run_orFail_eq_ok, Wide.add?, Wide.fit?_eq_some_iff]
      constructor
      · rintro ⟨⟨hf, rfl⟩, rfl⟩
        exact ⟨.add hf, rfl⟩
      · rintro ⟨hy, rfl⟩
        cases hy with
        | add hf => exact ⟨⟨hf, rfl⟩, rfl⟩
  | sub =>
      simp only [applyOp, run_orFail_eq_ok, Wide.sub?, Wide.fit?_eq_some_iff]
      constructor
      · rintro ⟨⟨hf, rfl⟩, rfl⟩
        exact ⟨.sub hf, rfl⟩
      · rintro ⟨hy, rfl⟩
        cases hy with
        | sub hf => exact ⟨⟨hf, rfl⟩, rfl⟩
  | mul =>
      simp only [applyOp, run_orFail_eq_ok, Wide.mul?, Wide.fit?_eq_some_iff]
      constructor
      · rintro ⟨⟨hf, rfl⟩, rfl⟩
        exact ⟨.mul hf, rfl⟩
      · rintro ⟨hy, rfl⟩
        cases hy with
        | mul hf => exact ⟨⟨hf, rfl⟩, rfl⟩
  | div =>
      simp only [applyOp]
      split_ifs with hb
      · rw [run_failAt_eq_ok, false_iff]
        rintro ⟨hy, -⟩
        cases hy with
        | div hne _ => exact hne hb
      · simp only [run_orFail_eq_ok, Wide.div?, Wide.fit?_eq_some_iff]
        constructor
        · rintro ⟨⟨hf, rfl⟩, rfl⟩
          exact ⟨.div hb hf, rfl⟩
        · rintro ⟨hy, rfl⟩
          cases hy with
          | div _ hf => exact ⟨⟨hf, rfl⟩, rfl⟩
  | rem =>
      simp only [applyOp]
      split_ifs with hb
      · rw [run_failAt_eq_ok, false_iff]
        rintro ⟨hy, -⟩
        cases hy with
        | rem hne _ => exact hne hb
      · simp only [run_orFail_eq_ok, Wide.rem?_eq_some_iff]
        constructor
        · rintro ⟨⟨hf, rfl⟩, rfl⟩
          exact ⟨.rem hb hf, rfl⟩
        · rintro ⟨hy, rfl⟩
          cases hy with
          | rem _ hf => exact ⟨⟨hf, rfl⟩, rfl⟩
  | bitAnd =>
      simp only [applyOp, run_pure_eq_ok]
      constructor
      · rintro ⟨rfl, rfl⟩
        exact ⟨.bitAnd, rfl⟩
      · rintro ⟨hy, rfl⟩
        cases hy with
        | bitAnd => exact ⟨rfl, rfl⟩
  | bitOr =>
      simp only [applyOp, run_pure_eq_ok]
      constructor
      · rintro ⟨rfl, rfl⟩
        exact ⟨.bitOr, rfl⟩
      · rintro ⟨hy, rfl⟩
        cases hy with
        | bitOr => exact ⟨rfl, rfl⟩
  | bitXor =>
      simp only [applyOp, run_pure_eq_ok]
      constructor
      · rintro ⟨rfl, rfl⟩
        exact ⟨.bitXor, rfl⟩
      · rintro ⟨hy, rfl⟩
        cases hy with
        | bitXor => exact ⟨rfl, rfl⟩
  | shl =>
      simp only [applyOp, run_orFail_eq_ok, Wide.shl?_eq_some_iff]
      constructor
      · rintro ⟨⟨hb, hf, rfl⟩, rfl⟩
        exact ⟨.shl hb hf, rfl⟩
      · rintro ⟨hy, rfl⟩
        cases hy with
        | shl hb hf => exact ⟨⟨hb, hf, rfl⟩, rfl⟩
  | shr =>
      simp only [applyOp, run_orFail_eq_ok, Wide.shr?_eq_some_iff ha]
      constructor
      · rintro ⟨⟨hb, rfl⟩, rfl⟩
        exact ⟨.shr hb, rfl⟩
      · rintro ⟨hy, rfl⟩
        cases hy with
        | shr hb => exact ⟨⟨hb, rfl⟩, rfl⟩
  | other =>
      rw [applyOp, run_failAt_eq_ok, false_iff]
      rintro ⟨hy, -⟩
      cases hy

/-! ## Expressions -/

variable {scope : Scope} {resolve : Key → Span → Eval Int} {span : Span} {v : Int}

lemma integer_neg {operand : Expr} (h : isLiteral operand = false) :
    scope.integer resolve (.neg operand span) = (do
      let value ← scope.integer resolve operand
      orFail (Wide.neg? value) .overflow span) :=
  Scope.integer.eq_3 _ _ _ _ fun _ _ _ he => by simp [he, isLiteral] at h

/-- A minus which stands before no literal negates the value behind it. -/
lemma run_neg_eq_ok {operand : Expr} (h : isLiteral operand = false) :
    (scope.integer resolve (.neg operand span)).run memo = .ok (v, after) ↔
      ∃ a, (scope.integer resolve operand).run memo = .ok (a, after) ∧ Wide.Fits (-a) ∧ v = -a := by
  simp only [integer_neg h, run_bind_eq_ok, run_orFail_eq_ok, Wide.neg?, Wide.fit?_eq_some_iff]
  constructor
  · rintro ⟨a, _, ha, hv, rfl⟩
    exact ⟨a, ha, hv⟩
  · rintro ⟨a, ha, hv⟩
    exact ⟨a, after, ha, hv, rfl⟩

lemma run_cast_eq_ok {operand : Expr} {target : Ty} :
    (scope.integer resolve (.cast operand target span)).run memo = .ok (v, after) ↔
      ∃ a type, (scope.integer resolve operand).run memo = .ok (a, after) ∧
        target.primitive? = some type ∧ v = type.wrap a := by
  simp only [Scope.integer, run_bind_eq_ok, run_orFail_eq_ok, Option.map_eq_some_iff]
  constructor
  · rintro ⟨a, _, ha, ⟨type, ht, rfl⟩, rfl⟩
    exact ⟨a, type, ha, ht, rfl⟩
  · rintro ⟨a, type, ha, ht, rfl⟩
    exact ⟨a, after, ha, ⟨type, ht, rfl⟩, rfl⟩

/-- A path among integers names a bound, or else a constant which is not of the type. -/
lemma run_path_eq_ok {path : Path} :
    (scope.integer resolve (.path path span)).run memo = .ok (v, after) ↔
      (boundOf? path = some v ∧ after = memo) ∨
        (boundOf? path = none ∧ ∃ key, keyOf? scope.type path = some key ∧ scope.isGroup key = false ∧
          (resolve key span).run memo = .ok (v, after)) := by
  rw [Scope.integer]
  rcases boundOf? path with _ | bound
  · rcases keyOf? scope.type path with _ | key
    · simp [run_failAt_eq_ok]
    · rcases hg : scope.isGroup key
      · simp [hg]
      · simp [hg, run_failAt_eq_ok]
  · simp only [run_pure_eq_ok, Option.some.injEq, reduceCtorEq, false_and, or_false]
    rw [eq_comm]

/-- The one field which is read is that of a constant which is no integer. -/
lemma run_field_eq_ok {base : Expr} {index : Nat} :
    (scope.integer resolve (.field base index span)).run memo = .ok (v, after) ↔
      ∃ path inner key, base = .path path inner ∧ index = 0 ∧ keyOf? scope.type path = some key ∧
        scope.isScalar key = false ∧ (resolve key span).run memo = .ok (v, after) := by
  by_cases h : ∃ path inner, base = .path path inner ∧ index = 0
  · obtain ⟨path, inner, rfl, rfl⟩ := h
    rw [Scope.integer.eq_7]
    rcases hk : keyOf? scope.type path with _ | key
    · simp [hk, run_failAt_eq_ok]
    · rcases hs : scope.isScalar key
      · simp [hk, hs]
      · simp [hk, hs, run_failAt_eq_ok]
  · rw [Scope.integer.eq_8 _ _ _ _ _ fun path inner hb hi => h ⟨path, inner, hb, hi⟩]
    simp only [run_failAt_eq_ok, false_iff]
    rintro ⟨path, inner, key, hb, hi, -⟩
    exact h ⟨path, inner, hb, hi⟩

/-- A call makes a value of the type if it calls the type, and its argument is in range. -/
lemma run_call_eq_ok {function argument : Expr} :
    (scope.group resolve (.call function argument span)).run memo = .ok (v, after) ↔
      isConstructor scope.type function = true ∧
        (scope.integer resolve argument).run memo = .ok (v, after) ∧ scope.repr.holds v = true := by
  rw [Scope.group]
  split_ifs with hc
  · simp only [run_bind_eq_ok, run_inRange_eq_ok, hc, true_and]
    constructor
    · rintro ⟨_, _, ha, hr, rfl, rfl⟩
      exact ⟨ha, hr⟩
    · rintro ⟨ha, hr⟩
      exact ⟨v, after, ha, hr, rfl, rfl⟩
  · simp only [run_failAt_eq_ok, hc, Bool.false_eq_true, false_and]

/-- A path is a value of the type if it names a constant of the type. -/
lemma run_alias_eq_ok {path : Path} :
    (scope.group resolve (.path path span)).run memo = .ok (v, after) ↔
      ∃ key, keyOf? scope.type path = some key ∧ scope.isGroup key = true ∧
        (resolve key span).run memo = .ok (v, after) := by
  rw [Scope.group]
  rcases keyOf? scope.type path with _ | key
  · simp [run_failAt_eq_ok]
  · rcases hg : scope.isGroup key
    · simp [hg, run_failAt_eq_ok]
    · simp [hg]

/-! ## Constants -/

/-- The memo while a constant is evaluated. -/
def Memo.enter (memo : Memo) (key : Key) : Memo :=
  { memo with visiting := key :: memo.visiting }

/-- The memo once a constant was evaluated. -/
def Memo.leave (memo : Memo) (key : Key) (value : Int) : Memo :=
  { values := (key, value) :: memo.values, visiting := memo.visiting.erase key }

/-- **The evaluation of one constant**, with the constants which it refers to left to a function. -/
def Scope.constant (scope : Scope) (resolve : Key → Span → Eval Int) (key : Key) (span : Span) :
    Eval Int := do
  let memo ← get
  match memo.values.lookup key with
  | some value => return value
  | none =>
    match scope.candidates.find? key with
    | none => failAt (.unknownConstant key) span
    | some candidate =>
      if key ∈ memo.visiting then failAt (.cycle key) span
      else
        set (memo.enter key)
        let value ← scope.initializer resolve candidate
        modify (·.leave key value)
        return value

/-- The depth counts how many constants are evaluated inside each other. -/
lemma evaluateWith_succ (scope : Scope) (depth : Nat) :
    scope.evaluateWith (depth + 1) = scope.constant (scope.evaluateWith depth) := rfl

/-- A constant which is known has its value. -/
lemma run_constant_of_known {key : Key} (h : memo.values.lookup key = some v) :
    (scope.constant resolve key span).run memo = .ok (v, memo) := by
  rw [Scope.constant]
  simp only [StateT.run_bind, StateT.run_get, pure_bind, h]
  rfl

/-- A constant which is not known is looked up, and refused if it is in progress; else its initializer is
evaluated. -/
lemma run_constant_of_unknown {key : Key} (h : memo.values.lookup key = none) :
    (scope.constant resolve key span).run memo =
      match scope.candidates.find? key with
      | none => .error ⟨.unknownConstant key, span⟩
      | some candidate =>
        if key ∈ memo.visiting then .error ⟨.cycle key, span⟩
        else (scope.initializer resolve candidate).run (memo.enter key) >>=
          fun (v, inside) => .ok (v, inside.leave key v) := by
  rw [Scope.constant]
  simp only [StateT.run_bind, StateT.run_get, pure_bind, h]
  rcases scope.candidates.find? key with _ | candidate
  · rfl
  · split_ifs
    · rfl
    · rfl

/-- **All that can happen when a constant is evaluated and a value comes of it**: the value was known, or
the initializer of a constant which is not in progress was evaluated. -/
lemma run_constant_eq_ok {key : Key} :
    (scope.constant resolve key span).run memo = .ok (v, after) ↔
      (memo.values.lookup key = some v ∧ after = memo) ∨
        (memo.values.lookup key = none ∧ key ∉ memo.visiting ∧
          ∃ candidate inside, scope.candidates.find? key = some candidate ∧
            (scope.initializer resolve candidate).run (memo.enter key) = .ok (v, inside) ∧
            after = inside.leave key v) := by
  rcases hknown : memo.values.lookup key with _ | known
  · rw [run_constant_of_unknown hknown]
    simp only [reduceCtorEq, false_and, false_or, true_and]
    rcases hfind : scope.candidates.find? key with _ | candidate
    · simp only [reduceCtorEq, false_and, exists_false, and_false]
    · by_cases hin : key ∈ memo.visiting
      · simp only [hin, if_true, reduceCtorEq, not_true_eq_false, false_and]
      · rcases hrun : (scope.initializer resolve candidate).run (memo.enter key) with failure | ⟨w, inside⟩
        · simp [hin, hrun, bind, Except.bind]
        · simp only [hin, if_false, hrun, bind, Except.bind, Except.ok.injEq, Prod.mk.injEq,
            not_false_eq_true, true_and, Option.some.injEq]
          constructor
          · rintro ⟨rfl, rfl⟩
            exact ⟨_, _, rfl, hrun, rfl⟩
          · rintro ⟨_, _, rfl, hrun', rfl⟩
            rw [hrun] at hrun'
            cases hrun'
            exact ⟨rfl, rfl⟩
  · rw [run_constant_of_known hknown]
    simp only [Except.ok.injEq, Prod.mk.injEq, Option.some.injEq, reduceCtorEq, false_and, or_false]
    rw [eq_comm (a := after)]

end EnumTables.Constants
