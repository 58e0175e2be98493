/-!
# Points in time

* `Date` and `Date.ofDays` — dates by the number of days since the beginning of 1970.
* `momentText` — a point in time as text, with its distance to universal time.
-/

namespace EnumTables.Text

/-- A date, counted as calendars count. -/
structure Date where
  year : Nat
  month : Nat
  day : Nat
deriving DecidableEq, Repr

/-- **The date some days after the first of January 1970.**  Years are counted from March on, so that the
day which some of them lack is their last: 400 of them have 146097 days, and five months from March or
August on have 153. -/
def Date.ofDays (days : Nat) : Date :=
  let shifted := days + 719468
  let cycle := shifted / 146097
  let dayOfCycle := shifted % 146097
  let year := (dayOfCycle + dayOfCycle / 36524 - dayOfCycle / 1460 - dayOfCycle / 146096) / 365
  let dayOfYear := dayOfCycle - (365 * year + year / 4 - year / 100)
  let month := (5 * dayOfYear + 2) / 153
  { year := 400 * cycle + year + if month < 10 then 0 else 1
    month := if month < 10 then month + 3 else month - 9
    day := dayOfYear - (153 * month + 2) / 5 + 1 }

example : Date.ofDays 0 = ⟨1970, 1, 1⟩ := by decide
example : Date.ofDays 11016 = ⟨2000, 2, 29⟩ := by decide
example : Date.ofDays 11017 = ⟨2000, 3, 1⟩ := by decide

/-- A number with zeros before it, up to a width. -/
def zeroPadded (width number : Nat) : String :=
  let digits := Nat.toDigits 10 number
  String.ofList (List.replicate (width - digits.length) '0' ++ digits)

/-- The text of a point in universal time, given in seconds since the beginning of 1970. -/
def momentText (seconds : Nat) : String :=
  let date := Date.ofDays (seconds / 86400)
  let time := seconds % 86400
  zeroPadded 4 date.year ++ "-" ++ zeroPadded 2 date.month ++ "-" ++ zeroPadded 2 date.day ++ "T" ++
    zeroPadded 2 (time / 3600) ++ ":" ++ zeroPadded 2 (time / 60 % 60) ++ ":" ++ zeroPadded 2 (time % 60) ++
    "+00:00"

end EnumTables.Text
