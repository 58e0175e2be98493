/-!
# The shortest decimal of a float

* `Binary` — a finite float without its sign, as a mantissa and a power of two.
* `Binary.interval` — the numbers which round to it, on a common denominator.
* `Decimal` — digits and a power of ten.
* `shortest` — the decimal of fewest digits which rounds to a float, and of those the nearest.
* `floatText` — the text of a float.
-/

namespace EnumTables.Number

/-! ## Floats -/

/-- The number `mantissa · 2 ^ exponent`. -/
structure Binary where
  mantissa : Nat
  exponent : Int
deriving DecidableEq, Repr

/-- What the bits of a float without its sign say: a number, unless the exponent is the greatest. -/
def Binary.ofBits (bits : Nat) : Binary :=
  let fraction : Nat := bits % Nat.pow 2 52
  let exponent : Nat := bits / Nat.pow 2 52 % Nat.pow 2 11
  if exponent = 0 then ⟨fraction, -1074⟩ else ⟨Nat.pow 2 52 + fraction, (exponent : Int) - 1075⟩

/-- A float and the ends of the interval which rounds to it, as numerators over one denominator.  The
ends belong to it if the mantissa is even. -/
structure Interval where
  low : Nat
  value : Nat
  high : Nat
  denominator : Nat
  closed : Bool
deriving DecidableEq, Repr

/-- **The interval of a float.**  Below a power of two the floats are twice as dense. -/
def Binary.interval (binary : Binary) : Interval :=
  let m := binary.mantissa
  let below := if m = Nat.pow 2 52 ∧ binary.exponent ≠ -1074 then 1 else 2
  let up := Nat.pow 2 binary.exponent.toNat
  { low := (4 * m - below) * up
    value := 4 * m * up
    high := (4 * m + 2) * up
    denominator := 4 * Nat.pow 2 (-binary.exponent).toNat
    closed := m % 2 == 0 }

/-! ## Decimals -/

/-- The number `digits · 10 ^ power`. -/
structure Decimal where
  digits : Nat
  power : Int
deriving DecidableEq, Repr

/-- A decimal over the denominator of an interval, both multiplied by a power of ten so that they are
whole: the numerator, and the factor of the others. -/
def Decimal.over (decimal : Decimal) (denominator : Nat) : Nat × Nat :=
  (decimal.digits * Nat.pow 10 decimal.power.toNat * denominator, Nat.pow 10 (-decimal.power).toNat)

/-- Whether a decimal lies in an interval. -/
def Interval.holds (interval : Interval) (decimal : Decimal) : Bool :=
  let (numerator, factor) := decimal.over interval.denominator
  let low := interval.low * factor
  let high := interval.high * factor
  if interval.closed then low ≤ numerator && numerator ≤ high else low < numerator && numerator < high

/-- How far a decimal is from the value, over a common denominator. -/
def Interval.distance (interval : Interval) (decimal : Decimal) : Nat :=
  let (numerator, factor) := decimal.over interval.denominator
  let value := interval.value * factor
  (numerator - value) + (value - numerator)

/-- The greatest decimal with a power of ten which is not above the value. -/
def Interval.floor (interval : Interval) (power : Int) : Decimal :=
  ⟨interval.value * Nat.pow 10 (-power).toNat / (interval.denominator * Nat.pow 10 power.toNat), power⟩

/-- The nearest of the two decimals around the value which lie in the interval, if one does. -/
def Interval.nearest? (interval : Interval) (power : Int) : Option Decimal :=
  let low := interval.floor power
  let high : Decimal := { low with digits := low.digits + 1 }
  match interval.holds low, interval.holds high with
  | true, true => some (if interval.distance high < interval.distance low then high else low)
  | true, false => some low
  | false, true => some high
  | false, false => none

/-- The first power of ten from above whose decimals come into the interval. -/
def Interval.search (interval : Interval) : Nat → Int → Decimal
  | 0, power => interval.floor power
  | tries + 1, power => (interval.nearest? power).getD (interval.search tries (power - 1))

/-- **The shortest decimal of a float** which is not zero.  No float needs more than seventeen digits, and
none is as large as the power of ten at which the search begins. -/
def shortest (binary : Binary) : Decimal :=
  let interval := binary.interval
  let length := (Nat.toDigits 10 (interval.value / interval.denominator)).length
  interval.search 400 length

/-! ## Text -/

/-- Text of digits, with a point before the last `places` of them. -/
def withPoint (digits : List Char) (places : Nat) : String :=
  let digits := List.replicate (places + 1 - digits.length) '0' ++ digits
  let whole := digits.length - places
  String.ofList (digits.take whole) ++
    if places = 0 then ".0" else "." ++ String.ofList (digits.drop whole)

/-- The text of a decimal whose last digit is not zero: positional from `0.0001` to below `10 ^ 16`, and
with an exponent beyond. -/
def Decimal.text (decimal : Decimal) : String :=
  let digits := Nat.toDigits 10 decimal.digits
  let scale := decimal.power + digits.length
  if -4 < scale ∧ scale ≤ 16 then
    if 0 ≤ decimal.power then
      withPoint (digits ++ List.replicate decimal.power.toNat '0') 0
    else
      withPoint digits (-decimal.power).toNat
  else
    let point := if digits.length = 1 then [] else ['.']
    String.ofList (digits.take 1 ++ point ++ digits.drop 1) ++ "e" ++ toString (scale - 1)

/-- **The text of a float**, which reads back as it. -/
def floatText (value : Float) : String :=
  let bits := value.toBits.toNat
  let negative := Nat.pow 2 63 ≤ bits
  let magnitude := bits % Nat.pow 2 63
  let sign := if negative then "-" else ""
  if 2047 * Nat.pow 2 52 < magnitude then "NaN"
  else if magnitude = 2047 * Nat.pow 2 52 then sign ++ "inf"
  else if magnitude = 0 then sign ++ "0.0"
  else sign ++ (shortest (.ofBits magnitude)).text

end EnumTables.Number
