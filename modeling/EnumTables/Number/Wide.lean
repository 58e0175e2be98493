/-!
# Integers of 128 bits

Constant expressions are worked out on signed integers of 128 bits.  A value is an `Int` within
`Wide.least` and `Wide.greatest`; every operation here either gives the exact result or says that it
does not fit, and none of them wraps.

* `twoPow` — powers of two.
* `Wide.fit?` — a value, if it fits.
* `Wide.add?`, `Wide.sub?`, `Wide.mul?`, `Wide.neg?` — exact or nothing.
* `Wide.div?`, `Wide.rem?` — truncating toward zero; the caller rules out a divisor of zero.
* `Wide.shl?`, `Wide.shr?` — shifts by less than 128 places.
* `Wide.and`, `Wide.or`, `Wide.xor` — bit by bit in two's complement.
-/

namespace EnumTables.Number

/-- A power of two. -/
def twoPow (n : Nat) : Int := Nat.pow 2 n

namespace Wide

def least : Int := -twoPow 127

def greatest : Int := twoPow 127 - 1

/-- The value, if it has 128 bits. -/
def fit? (value : Int) : Option Int :=
  if least ≤ value ∧ value ≤ greatest then some value else none

/-! ## Arithmetic -/

def add? (a b : Int) : Option Int := fit? (a + b)

def sub? (a b : Int) : Option Int := fit? (a - b)

def mul? (a b : Int) : Option Int := fit? (a * b)

def neg? (a : Int) : Option Int := fit? (-a)

/-- The quotient, truncated toward zero.  Only the least value by minus one does not fit. -/
def div? (a b : Int) : Option Int := fit? (a.tdiv b)

/-- The remainder of the truncated quotient.  It is refused where the quotient does not fit, although
it would be zero there. -/
def rem? (a b : Int) : Option Int :=
  if (div? a b).isSome then some (a.tmod b) else none

/-! ## Bits -/

/-- The word of 128 bits which stands for a value. -/
def word (a : Int) : BitVec 128 := BitVec.ofInt 128 a

def and (a b : Int) : Int := (word a &&& word b).toInt

def or (a b : Int) : Int := (word a ||| word b).toInt

def xor (a b : Int) : Int := (word a ^^^ word b).toInt

/-- An amount to shift by: from 0 to 127. -/
def amount? (places : Int) : Option Nat :=
  if 0 ≤ places ∧ places < 128 then some places.toNat else none

/-- **Shift to the left.**  The word is shifted, and the result stands if shifting it back gives the
value again, that is if no bit was lost and the sign was kept. -/
def shl? (a places : Int) : Option Int := do
  let n ← amount? places
  let shifted := word a <<< n
  if (shifted.sshiftRight n).toInt = a then some shifted.toInt else none

/-- Shift to the right, keeping the sign. -/
def shr? (a places : Int) : Option Int := do
  let n ← amount? places
  some ((word a).sshiftRight n).toInt

end Wide

end EnumTables.Number
