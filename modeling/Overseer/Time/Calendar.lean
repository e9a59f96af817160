/-!
# The proleptic Gregorian calendar

Days are counted from 1 January 1970, backwards too.  The calendar repeats every 400 years; inside
such an era the years are taken to begin on 1 March, so that a leap day is the last of its year.

## Main definitions

* `Date` — year, month and day
* `Date.ofDays` — the date of a day number
* `Date.toDays` — the day number of a date
-/

namespace Overseer.Time

/-- A date of the proleptic Gregorian calendar; year 0 is the year before year 1. -/
structure Date where
  /-- the year, any integer -/
  year : Int
  /-- the month, 1 to 12 -/
  month : Nat
  /-- the day of the month, from 1 on -/
  day : Nat
  deriving DecidableEq, Repr

namespace Date

/-- Days from 1 March of year 0 to 1 January 1970. -/
def epochShift : Int := 719468

/-- Days in 400 years. -/
def daysPerEra : Int := 146097

/-- The year of an era, counted from 0 and from 1 March, that holds its day `n`. -/
def yearOfEra (n : Nat) : Nat :=
  (n - n / 1460 + n / 36524 - n / 146096) / 365

/-- The first day of a year of an era. -/
def dayOfYear (y : Nat) : Nat := 365 * y + y / 4 - y / 100

/-- The month, 0 for March to 11 for February, that holds day `n` of such a year. -/
def monthOfYear (n : Nat) : Nat := (5 * n + 2) / 153

/-- The first day of a month of such a year. -/
def dayOfMonth (m : Nat) : Nat := (153 * m + 2) / 5

/-- The date of a day, counted from 1 January 1970. -/
def ofDays (days : Int) : Date :=
  let shifted := days + epochShift
  let era := shifted / daysPerEra
  let dayOfEra := (shifted % daysPerEra).toNat
  let year := yearOfEra dayOfEra
  let day := dayOfEra - dayOfYear year
  let month := monthOfYear day
  { year := era * 400 + year + (if month < 10 then 0 else 1)
    month := if month < 10 then month + 3 else month - 9
    day := day - dayOfMonth month + 1 }

/-- The day that a date is, counted from 1 January 1970. -/
def toDays (d : Date) : Int :=
  let year := if d.month ≤ 2 then d.year - 1 else d.year
  let era := year / 400
  let yearOfEra := (year % 400).toNat
  let month := if d.month ≤ 2 then d.month + 9 else d.month - 3
  era * daysPerEra + (dayOfYear yearOfEra + dayOfMonth month + d.day : Nat) - 1 - epochShift

example : ofDays 0 = ⟨1970, 1, 1⟩ := by decide
example : ofDays 11016 = ⟨2000, 2, 29⟩ := by decide
example : ofDays (-719529) = ⟨-1, 12, 31⟩ := by decide
example : toDays ⟨-1, 12, 31⟩ = -719529 := by decide

end Date

end Overseer.Time
