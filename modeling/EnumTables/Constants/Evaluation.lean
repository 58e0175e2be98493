import EnumTables.Constants.Fault

/-!
# The values of constants

Constants are evaluated when they are referred to, so that they can be declared in any order.  The
arithmetic is that of integers of 128 bits; only the value of a whole constant has to lie in the range of
its type.

* `Scope` — the type, and the constants which can be referred to.
* `Memo` — the values which are known, and the constants which are being evaluated.
* `literalValue`, `boundOf?`, `applyOp` — the parts of an expression.
* `integer`, `group` — the value of an initializer, with references left to a function.
* `evaluateWith`, `evaluate` — the value of a constant.
-/

namespace EnumTables.Constants

open EnumTables.Number EnumTables.Source EnumTables.Token

/-! ## Scope and state -/

/-- What an initializer is read in: the name of the type, the integer it wraps, and the constants. -/
structure Scope where
  type : String
  repr : Primitive
  candidates : Candidates

/-- The values which are known, and the constants whose evaluation has begun and not ended. -/
structure Memo where
  values : List (Key × Int)
  visiting : List Key
deriving DecidableEq, Repr

/-- Nothing is known yet. -/
def Memo.empty : Memo := ⟨[], []⟩

/-- An evaluation. -/
abbrev Eval := StateT Memo (Except Failure)

/-- Fails at a place. -/
def failAt {α : Type} (fault : Fault) (span : Span) : Eval α :=
  throw ⟨fault, span⟩

/-- A value, or a failure at a place. -/
def orFail (value? : Option Int) (fault : Fault) (span : Span) : Eval Int :=
  match value? with
  | some value => return value
  | none => failAt fault span

/-- A value which has to lie in the range of a type. -/
def inRange (type : Primitive) (value : Int) (span : Span) : Eval Int :=
  if type.holds value then return value else failAt (.outOfRange value type) span

/-! ## Parts of expressions -/

/-- A value which stands before a suffix.  Only the ten primitives bound it. -/
def suffixed (suffix : String) (value : Int) (span : Span) : Eval Int :=
  match Primitive.ofLabel? suffix with
  | some type => inRange type value span
  | none => return value

/-- **The value of a literal**, negated if it stands behind a minus.  The magnitude has to fit before it
is negated; the suffix is looked at after that. -/
def literalValue (literal : IntegerLiteral) (negative : Bool) (place span : Span) : Eval Int := do
  let magnitude ← orFail (Wide.fit? literal.magnitude) .literalTooLarge place
  let value ← if negative then orFail (Wide.neg? magnitude) .overflow span else pure magnitude
  suffixed literal.suffix value span

/-- The bound which a path such as `u8::MAX` names. -/
def boundOf? (path : Path) : Option Int :=
  match path.names with
  | [type, bound] => do
    let type ← Primitive.ofLabel? type
    if bound = "MIN" then some type.least
    else if bound = "MAX" then some type.greatest
    else none
  | _ => none

/-- **Operators.** -/
def applyOp (op : BinaryOp) (left right : Int) (span : Span) : Eval Int :=
  match op with
  | .add => orFail (Wide.add? left right) .overflow span
  | .sub => orFail (Wide.sub? left right) .overflow span
  | .mul => orFail (Wide.mul? left right) .overflow span
  | .div =>
    if right = 0 then failAt .divisionByZero span else orFail (Wide.div? left right) .overflow span
  | .rem =>
    if right = 0 then failAt .divisionByZero span else orFail (Wide.rem? left right) .overflow span
  | .bitAnd => return Wide.and left right
  | .bitOr => return Wide.or left right
  | .bitXor => return Wide.xor left right
  | .shl => orFail (Wide.shl? left right) .overflow span
  | .shr => orFail (Wide.shr? left right) .overflow span
  | .other => failAt .unsupported span

/-! ## Initializers -/

/-- Whether a called expression makes a value of the type: `Self`, or a path to the type. -/
def isConstructor (type : String) : Expr → Bool
  | .path path _ => path.ident? == some "Self" || path.segments.getLast?.any (·.name == type)
  | _ => false

namespace Scope

/-- Whether a key stands for a constant of the type. -/
def isGroup (scope : Scope) (key : Key) : Bool :=
  scope.candidates.kind? key == some .group

/-- Whether a key stands for an integer. -/
def isScalar (scope : Scope) (key : Key) : Bool :=
  match scope.candidates.kind? key with
  | some (.scalar _) => true
  | _ => false

/-- **The value of an integer expression**; `resolve` evaluates the constants it refers to. -/
def integer (scope : Scope) (resolve : Key → Span → Eval Int) : Expr → Eval Int
  | .integer number place span => literalValue number false place span
  | .neg operand span =>
    match operand with
    | .integer number place _ => literalValue number true place span
    | operand => do
      let value ← scope.integer resolve operand
      orFail (Wide.neg? value) .overflow span
  | .binary op left right span => do
    let left ← scope.integer resolve left
    let right ← scope.integer resolve right
    applyOp op left right span
  | .cast operand target span => do
    let value ← scope.integer resolve operand
    orFail (target.primitive?.map (·.wrap value)) .unsupported span
  | .path path span =>
    match boundOf? path with
    | some value => return value
    | none =>
      match keyOf? scope.type path with
      | none => failAt .unsupported span
      | some key =>
        if scope.isGroup key then failAt (.groupConstant key scope.type) span
        else resolve key span
  | .field base index span =>
    match base, index with
    | .path path _, 0 =>
      match keyOf? scope.type path with
      | some key => if scope.isScalar key then failAt .unsupported span else resolve key span
      | none => failAt .unsupported span
    | _, _ => failAt .unsupported span
  | .paren inner _ => scope.integer resolve inner
  | .call _ _ span | .block span | .range span | .other span => failAt .unsupported span

/-- **The value of an initializer of the type**: a value which is made of an integer, or another
constant of the type. -/
def group (scope : Scope) (resolve : Key → Span → Eval Int) : Expr → Eval Int
  | .call function argument span => do
    if isConstructor scope.type function then
      let value ← scope.integer resolve argument
      inRange scope.repr value argument.span
    else
      failAt (.noGroupValue scope.type) span
  | .path path span =>
    match keyOf? scope.type path with
    | some key => if scope.isGroup key then resolve key span else failAt (.noGroupValue scope.type) span
    | none => failAt (.noGroupValue scope.type) span
  | .paren inner _ => scope.group resolve inner
  | expr => failAt (.noGroupValue scope.type) expr.span

/-- The value of a constant's initializer, which has to lie in the range of the constant's type. -/
def initializer (scope : Scope) (resolve : Key → Span → Eval Int) (candidate : Candidate) :
    Eval Int :=
  match candidate.kind with
  | .group => scope.group resolve candidate.value
  | .scalar type => do
    let value ← scope.integer resolve candidate.value
    inRange type value candidate.value.span

/-! ## Constants -/

/-- **The value of a constant** which is referred to at `span`.  A value which is known is not worked out
again, and a constant whose own evaluation has not ended refers to itself.  `depth` bounds how many
constants are evaluated inside each other. -/
def evaluateWith (scope : Scope) : Nat → Key → Span → Eval Int
  | 0, key, span => failAt (.cycle key) span
  | depth + 1, key, span => do
    let memo ← get
    match memo.values.lookup key with
    | some value => return value
    | none =>
      match scope.candidates.find? key with
      | none => failAt (.unknownConstant key) span
      | some candidate =>
        if key ∈ memo.visiting then failAt (.cycle key) span
        else
          set { memo with visiting := key :: memo.visiting }
          let value ← scope.initializer (scope.evaluateWith depth) candidate
          modify fun after =>
            { values := (key, value) :: after.values, visiting := after.visiting.erase key }
          return value

/-- A depth which is never used up: constants inside each other are distinct. -/
def depth (scope : Scope) : Nat := scope.candidates.length + 2

/-- The value of a constant which is referred to at `span`. -/
def evaluate (scope : Scope) (key : Key) (span : Span) : Eval Int :=
  scope.evaluateWith scope.depth key span

end Scope

end EnumTables.Constants
