import EnumTables.Number.Wide

/-!
# The integer primitives

The ten integer types which a constant group can wrap, up to 64 bits wide.  **Assumed of the machine:**
a pointer has 64 bits, so `isize` and `usize` are as wide as `i64` and `u64`.  Whatever is said of these
two is said of such machines only.

* `Primitive` — the types; `label` and `ofLabel?` tie them to their names.
* `least`, `greatest`, `holds` — the range.
* `wrap` — what a cast makes of a value.
-/

namespace EnumTables.Number

/-- The integer types of up to 64 bits. -/
inductive Primitive where
  | i8 | i16 | i32 | i64 | isize
  | u8 | u16 | u32 | u64 | usize
deriving DecidableEq, Repr

namespace Primitive

/-! ## Names -/

def all : List Primitive := [i8, i16, i32, i64, isize, u8, u16, u32, u64, usize]

/-- What source text calls the type. -/
def label : Primitive → String
  | i8 => "i8"
  | i16 => "i16"
  | i32 => "i32"
  | i64 => "i64"
  | isize => "isize"
  | u8 => "u8"
  | u16 => "u16"
  | u32 => "u32"
  | u64 => "u64"
  | usize => "usize"

/-- The type of a name. -/
def ofLabel? (label : String) : Option Primitive :=
  all.find? (·.label == label)

theorem ofLabel?_label (p : Primitive) : ofLabel? p.label = some p := by
  cases p <;> rfl

/-! ## Ranges -/

def isSigned : Primitive → Bool
  | i8 | i16 | i32 | i64 | isize => true
  | u8 | u16 | u32 | u64 | usize => false

/-- The width of the type, with pointers of 64 bits. -/
def bits : Primitive → Nat
  | i8 | u8 => 8
  | i16 | u16 => 16
  | i32 | u32 => 32
  | i64 | u64 | isize | usize => 64

/-- The least value of the type. -/
def least (p : Primitive) : Int :=
  if p.isSigned then -twoPow (p.bits - 1) else 0

/-- The greatest value of the type. -/
def greatest (p : Primitive) : Int :=
  if p.isSigned then twoPow (p.bits - 1) - 1 else twoPow p.bits - 1

/-- Whether the type has the value. -/
def holds (p : Primitive) (value : Int) : Bool :=
  p.least ≤ value && value ≤ p.greatest

/-! ## Casts -/

/-- **A cast to the type.**  The lowest bits of the value are kept; with a signed type, the upper half
of what they can say stands for the negative values. -/
def wrap (p : Primitive) (value : Int) : Int :=
  let kept := Wide.and value (twoPow p.bits - 1)
  if p.isSigned && twoPow (p.bits - 1) ≤ kept then kept - twoPow p.bits else kept

end Primitive

end EnumTables.Number
