import Overseer.Text.Decimal
import Overseer.Time.Calendar
import Overseer.Time.Duration

/-!
# Points in time and how they are written

A point in time is a number of seconds since the start of 1970 and a part of a second.  The part may
pass a whole second, which is how a leap second is told from the second before it.  Leap seconds
come behind the last second of a minute, and only there a point in time can be made with such a part;
but the part of one that exists can be replaced, so that it may be found in any second.

It is written as date, time of day and `Z`, all in UTC.  The part of a second takes 0, 3, 6 or 9
digits, the fewest that show it exactly.  Years outside 0 to 9999 have a sign.

## Main definitions

* `Timestamp` — a point in time
* `Timestamp.LeapInPlace` — it is in no leap second, or in one behind the end of a minute
* `Timestamp.ofParts?` — the point in time that seconds and nanoseconds stand for
* `Timestamp.format` — how it is written
-/

namespace Overseer.Time

open Overseer.Text

/-- A point in time, in UTC. -/
structure Timestamp where
  /-- seconds since the start of 1970 -/
  secs : Int
  /-- nanoseconds past that second; from `10 ^ 9` on, inside the leap second behind it -/
  nanos : Nat
  nanos_lt : nanos < 2 * nanosPerSecond := by decide
  deriving DecidableEq, Repr

namespace Timestamp

instance : Inhabited Timestamp := ⟨{ secs := 0, nanos := 0 }⟩

@[ext] theorem ext {a b : Timestamp} (hs : a.secs = b.secs) (hn : a.nanos = b.nanos) : a = b := by
  cases a; cases b; simp_all

/-- The point in time lies in a leap second only if that is behind the last second of a minute. -/
def LeapInPlace (t : Timestamp) : Prop := nanosPerSecond ≤ t.nanos → t.secs % 60 = 59

instance (t : Timestamp) : Decidable t.LeapInPlace :=
  inferInstanceAs (Decidable (nanosPerSecond ≤ t.nanos → t.secs % 60 = 59))

/-- The point in time that seconds and nanoseconds stand for, if they stand for one. -/
def ofParts? (secs : Int) (nanos : Nat) : Option Timestamp :=
  if h : nanos < 2 * nanosPerSecond ∧ (nanosPerSecond ≤ nanos → secs % 60 = 59) then
    some ⟨secs, nanos, h.1⟩
  else none

theorem ofParts?_eq_some_iff {secs : Int} {nanos : Nat} {t : Timestamp} :
    ofParts? secs nanos = some t ↔ t.secs = secs ∧ t.nanos = nanos ∧ t.LeapInPlace := by
  simp only [ofParts?]
  constructor
  · intro made
    split at made
    · next parts =>
      cases made
      exact ⟨rfl, rfl, parts.2⟩
    · contradiction
  · rintro ⟨rfl, rfl, inPlace⟩
    rw [dif_pos ⟨t.nanos_lt, inPlace⟩]

/-- A point in time outside leap seconds. -/
def ofRegular (secs : Int) (nanos : Nat) (h : nanos < nanosPerSecond) : Timestamp where
  secs := secs
  nanos := nanos
  nanos_lt := by omega

/-- Seconds in a day. -/
def secsPerDay : Int := 86400

/-- The year, in four digits, or with a sign where four digits do not do. -/
def formatYear (year : Int) : List Char :=
  if 0 ≤ year ∧ year ≤ 9999 then padded 4 year.natAbs
  else (if year < 0 then '-' else '+') :: padded 4 year.natAbs

/-- The part of a second, with its point. -/
def formatFraction (nanos : Nat) : List Char :=
  if nanos = 0 then []
  else if nanos % 1000000 = 0 then '.' :: padded 3 (nanos / 1000000)
  else if nanos % 1000 = 0 then '.' :: padded 6 (nanos / 1000)
  else '.' :: padded 9 nanos

/-- A point in time as it is written. -/
def formatChars (t : Timestamp) : List Char :=
  let date := Date.ofDays (t.secs / secsPerDay)
  let second := (t.secs % secsPerDay).toNat
  let leap := t.nanos / nanosPerSecond
  formatYear date.year ++ ['-'] ++ padded 2 date.month ++ ['-'] ++ padded 2 date.day ++ ['T'] ++
    padded 2 (second / 3600) ++ [':'] ++ padded 2 (second / 60 % 60) ++ [':'] ++
    padded 2 (second % 60 + leap) ++ formatFraction (t.nanos % nanosPerSecond) ++ ['Z']

/-- A point in time as it is written. -/
def format (t : Timestamp) : String := String.ofList t.formatChars

end Timestamp

end Overseer.Time
