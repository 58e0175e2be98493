import EnumTables.Number.Primitive
import EnumTables.Token.Literal

/-!
# Source files

What of a source file matters to groups of constants: tuple structs, constants, inherent `impl`
blocks, and in them types and expressions as far as they can say which constant belongs to a group and
what its value is.  Everything else is a span.

* `Identifier`, `Path` — names.
* `Ty` — types.
* `Expr` — expressions.
* `Visibility`, `Fields`, `TypeItem`, `ConstItem`, `ImplItem`, `Item` — items.
* `SourceFile` — all of it.
-/

namespace EnumTables.Source

open EnumTables.Number EnumTables.Token

/-! ## Names -/

/-- An identifier at its place; a raw one keeps its `r#`. -/
structure Identifier where
  text : String
  span : Span
deriving DecidableEq, Repr

/-- What is written behind a segment of a path. -/
inductive PathArguments where
  | none
  /-- `<..>` or `::<..>`; `count` is the number of arguments, and `tokens` holds all that is written. -/
  | angle (count : Nat) (tokens : List Token)
  /-- `(..)`, with what may follow it. -/
  | paren (tokens : List Token)
deriving Repr

/-- Whether no argument is given, be it without brackets or between empty ones. -/
def PathArguments.isEmpty : PathArguments → Bool
  | none => true
  | angle count _ => count == 0
  | paren _ => false

/-- Whether nothing is written behind the segment. -/
def PathArguments.isNone : PathArguments → Bool
  | none => true
  | _ => false

structure PathSegment where
  name : String
  arguments : PathArguments
deriving Repr

/-- A path; it is `rooted` if it begins with `::`. -/
structure Path where
  rooted : Bool
  segments : List PathSegment
deriving Repr

namespace Path

/-- The identifiers of the segments. -/
def names (path : Path) : List String :=
  path.segments.map (·.name)

/-- The identifier which is all the path says. -/
def ident? (path : Path) : Option String :=
  match path.rooted, path.segments with
  | false, [segment] => if segment.arguments.isNone then some segment.name else none
  | _, _ => none

/-- A path of one identifier. -/
def ofName (name : String) : Path := ⟨false, [⟨name, .none⟩]⟩

end Path

/-! ## Types -/

/-- Types.  A path which goes through `<..>::` is `other`, and `bound` is the one bound of a trait
object without a word in front of it. -/
inductive Ty where
  | path (path : Path)
  | paren (inner : Ty)
  | bound
  | other
deriving Repr

/-- The primitive which a type names, in any number of parentheses. -/
def Ty.primitive? : Ty → Option Primitive
  | path whole => whole.ident? >>= Primitive.ofLabel?
  | paren inner => inner.primitive?
  | bound | other => none

/-! ## Expressions -/

/-- Operators between two operands; comparisons and the lazy ones are `other`. -/
inductive BinaryOp where
  | add | sub | mul | div | rem
  | bitAnd | bitOr | bitXor
  | shl | shr
  | other
deriving DecidableEq, Repr

/-- **Expressions.**  Each carries the span from its first token, attributes included, to its last. -/
inductive Expr where
  | integer (value : IntegerLiteral) (place : Span) (span : Span)
  | neg (operand : Expr) (span : Span)
  | binary (op : BinaryOp) (left right : Expr) (span : Span)
  | cast (operand : Expr) (target : Ty) (span : Span)
  | path (path : Path) (span : Span)
  /-- A field by its position. -/
  | field (base : Expr) (index : Nat) (span : Span)
  /-- A call with one argument. -/
  | call (function argument : Expr) (span : Span)
  | paren (inner : Expr) (span : Span)
  /-- A block, a branch or a loop, which needs nothing behind it to end a statement. -/
  | block (span : Span)
  | range (span : Span)
  | other (span : Span)
deriving Repr

def Expr.span : Expr → Span
  | integer _ _ span | neg _ span | binary _ _ _ span | cast _ _ span | path _ span
  | field _ _ span | call _ _ span | paren _ span | block span | range span | other span => span

/-- The expression with another span. -/
def Expr.withSpan (span : Span) : Expr → Expr
  | integer value place _ => integer value place span
  | neg operand _ => neg operand span
  | binary op left right _ => binary op left right span
  | cast operand target _ => cast operand target span
  | path whole _ => path whole span
  | field base index _ => field base index span
  | call function argument _ => call function argument span
  | paren inner _ => paren inner span
  | block _ => block span
  | range _ => range span
  | other _ => other span

/-! ## Items -/

inductive Visibility where
  | inherited
  | everywhere
  | crate
  /-- `pub(..)`, with or without `in`. -/
  | restricted (within : Bool) (path : Path)
deriving Repr

def Visibility.isInherited : Visibility → Bool
  | inherited => true
  | _ => false

inductive Fields where
  | named
  | tuple (types : List Ty)
  | unit
deriving Repr

/-- A struct; `generics` is the span of its parameters, if it has any. -/
structure TypeItem where
  visibility : Visibility
  name : Identifier
  generics : Option Span
  fields : Fields
  span : Span
deriving Repr

/-- A constant with its type and its initializer. -/
structure ConstItem where
  name : Identifier
  type : Ty
  value : Expr
deriving Repr

/-- An `impl` block, with the constants declared in it. -/
structure ImplItem where
  ofTrait : Bool
  subject : Ty
  constants : List ConstItem
deriving Repr

inductive Item where
  | type (item : TypeItem)
  | const (item : ConstItem)
  | impl (item : ImplItem)
  | other
deriving Repr

/-- A source file: its items in order, and the span from its first token to its last. -/
structure SourceFile where
  items : List Item
  span : Span
deriving Repr

end EnumTables.Source
