import Overseer.Proofs.Text.DigitRuns
import Overseer.Proofs.Time.Dates
import Overseer.Time.Timestamp

/-!
# Points in time are read back

`Timestamp.read?` reads a date, a time of day and `Z`.  A year has four digits, or a sign and at least four;
a second 60 is a leap second, which belongs to second 59 and has a part of its own; and the part of a second
counts as many places as it has digits.  A date that is not one of the calendar is refused.

A point in time that is in no leap second, or in one behind the end of a minute, is read back from what is
written for it; two such are never written alike.  A leap second anywhere else is written as the second behind
it, which has a point in time of its own, and that is the one that is read (`read?_format`).
-/

namespace Overseer.Time

open Overseer.Text

/-! ## Readers -/

/-- Reads one given character. -/
def readMark? (mark : Char) : List Char → Option (List Char)
  | c :: rest => if c = mark then some rest else none
  | [] => none

/-- Reads at least four digits, all that stand at the front of the text. -/
def readLongYear? (cs : List Char) : Option (Nat × List Char) :=
  if 4 ≤ (digitRun cs).length then (digits? (digitRun cs)).map (·, afterDigits cs) else none

/-- Reads a year: four digits, or a sign and at least four. -/
def readYear? : List Char → Option (Int × List Char)
  | '-' :: cs => (readLongYear? cs).map fun (n, rest) => (-n, rest)
  | '+' :: cs => (readLongYear? cs).map fun (n, rest) => (n, rest)
  | cs => (fixedDigits? 4 cs).map fun (n, rest) => (n, rest)

/-- Reads a date of the calendar, as the day that it stands for. -/
def readDay? (cs : List Char) : Option (Int × List Char) := do
  let (year, cs) ← readYear? cs
  let cs ← readMark? '-' cs
  let (month, cs) ← fixedDigits? 2 cs
  let cs ← readMark? '-' cs
  let (day, cs) ← fixedDigits? 2 cs
  let date : Date := ⟨year, month, day⟩
  if Date.ofDays date.toDays = date then some (date.toDays, cs) else none

/-- Reads the part of a second, in nanoseconds: nothing, or a point and up to nine digits. -/
def readFraction? : List Char → Option (Nat × List Char)
  | '.' :: cs =>
      if (digitRun cs).length ≤ 9 then
        (digits? (digitRun cs)).map fun n => (n * 10 ^ (9 - (digitRun cs).length), afterDigits cs)
      else none
  | cs => some (0, cs)

/-- Reads the second of a minute: which it is, and the nanoseconds that it is ahead if it is the leap
second. -/
def readSecond? (cs : List Char) : Option ((Nat × Nat) × List Char) := do
  let (second, cs) ← fixedDigits? 2 cs
  if second < 60 then some ((second, 0), cs)
  else if second = 60 then some ((59, nanosPerSecond), cs)
  else none

/-- Reads a time of day, as seconds since midnight and nanoseconds. -/
def readTimeOfDay? (cs : List Char) : Option ((Nat × Nat) × List Char) := do
  let (hour, cs) ← fixedDigits? 2 cs
  let cs ← readMark? ':' cs
  let (minute, cs) ← fixedDigits? 2 cs
  let cs ← readMark? ':' cs
  let ((second, leap), cs) ← readSecond? cs
  let (nanos, cs) ← readFraction? cs
  if hour < 24 ∧ minute < 60 then some ((hour * 3600 + minute * 60 + second, leap + nanos), cs) else none

/-- Reads a point in time, and nothing behind it. -/
def Timestamp.readChars? (cs : List Char) : Option Timestamp := do
  let (day, cs) ← readDay? cs
  let cs ← readMark? 'T' cs
  let ((second, nanos), cs) ← readTimeOfDay? cs
  if cs = ['Z'] then Timestamp.ofParts? (day * Timestamp.secsPerDay + second) nanos else none

/-- Reads a point in time. -/
def Timestamp.read? (text : String) : Option Timestamp := readChars? text.toList

variable {rest : List Char} {n : Nat}

/-! ## What is written is read -/

theorem readMark?_cons (mark : Char) (rest : List Char) : readMark? mark (mark :: rest) = some rest :=
  if_pos rfl

theorem readLongYear?_padded (n : Nat) (stop : NoDigitFirst rest) :
    readLongYear? (padded 4 n ++ rest) = some (n, rest) := by
  obtain ⟨run, after⟩ := digitRun_padded_append 4 n stop
  rw [readLongYear?, run, after, if_pos (le_length_padded 4 n), digits?_padded]
  rfl

theorem readYear?_formatYear (year : Int) (stop : NoDigitFirst rest) :
    readYear? (Timestamp.formatYear year ++ rest) = some (year, rest) := by
  unfold Timestamp.formatYear
  split
  · next short =>
    have same : (year.natAbs : Int) = year := by omega
    rw [readYear?.eq_3, fixedDigits?_padded _ _ (by decide) (by omega)]
    · simp only [Option.map_some, same]
    -- four digits begin with no sign
    · exact fun _ => padded_append_ne_cons (by decide)
    · exact fun _ => padded_append_ne_cons (by decide)
  · split
    · next negative =>
      have same : -(year.natAbs : Int) = year := by omega
      simp only [List.cons_append, readYear?, readLongYear?_padded _ stop, Option.map_some, same]
    · next positive =>
      have same : (year.natAbs : Int) = year := by omega
      simp only [List.cons_append, readYear?, readLongYear?_padded _ stop, Option.map_some, same]

theorem readDay?_ofDays (days : Int) :
    readDay? (Timestamp.formatYear (Date.ofDays days).year ++ '-' :: (padded 2 (Date.ofDays days).month ++
      '-' :: (padded 2 (Date.ofDays days).day ++ rest))) = some (days, rest) := by
  obtain ⟨⟨-, month⟩, -, day⟩ := Date.bounds_ofDays days
  have dash : NoDigitFirst ('-' :: (padded 2 (Date.ofDays days).month ++
      '-' :: (padded 2 (Date.ofDays days).day ++ rest))) := noDigitFirst_cons (by decide)
  have months := fixedDigits?_padded 2 (Date.ofDays days).month (by decide) (by omega)
  have inMonth := fixedDigits?_padded 2 (Date.ofDays days).day (by decide) (by omega)
  simp only [readDay?, readYear?_formatYear _ dash, readMark?_cons, months, inMonth, Option.bind_eq_bind,
    Option.bind_some]
  exact (if_pos (congrArg Date.ofDays (Date.toDays_ofDays days))).trans
    (congrArg (fun day => some (day, rest)) (Date.toDays_ofDays days))

theorem readFraction?_padded {width nanos : Nat} (wide : 0 < width) (short : width ≤ 9)
    (fits : n < 10 ^ width) (scaled : n * 10 ^ (9 - width) = nanos) (stop : NoDigitFirst rest) :
    readFraction? ('.' :: (padded width n ++ rest)) = some (nanos, rest) := by
  obtain ⟨run, after⟩ := digitRun_padded_append width n stop
  rw [readFraction?, run, after, length_padded wide fits, if_pos short, digits?_padded, ← scaled]
  rfl

theorem readFraction?_formatFraction (inside : n < nanosPerSecond) :
    readFraction? (Timestamp.formatFraction n ++ ['Z']) = some (n, ['Z']) := by
  have stop : NoDigitFirst ['Z'] := noDigitFirst_cons (by decide)
  unfold nanosPerSecond at inside
  unfold Timestamp.formatFraction
  split_ifs with whole millis micros
  · rw [whole]
    rfl
  · exact readFraction?_padded (by decide) (by decide) (by omega) (by omega) stop
  · exact readFraction?_padded (by decide) (by decide) (by omega) (by omega) stop
  · exact readFraction?_padded (by decide) (by decide) (by omega) (by omega) stop

theorem readSecond?_padded {second leap : Nat} (inside : second < 60) (small : leap < 2)
    (last : leap = 1 → second = 59) :
    readSecond? (padded 2 (second + leap) ++ rest) = some ((second, leap * nanosPerSecond), rest) := by
  rw [readSecond?, fixedDigits?_padded _ _ (by decide) (by omega)]
  obtain rfl | rfl : leap = 0 ∨ leap = 1 := by omega
  · rw [Nat.add_zero, Nat.zero_mul]
    exact if_pos inside
  · obtain rfl := last rfl
    rfl

theorem readTimeOfDay?_padded {second leap : Nat} (inside : second < 86400) (small : leap < 2)
    (last : leap = 1 → second % 60 = 59) (part : n < nanosPerSecond) :
    readTimeOfDay? (padded 2 (second / 3600) ++ ':' :: (padded 2 (second / 60 % 60) ++
        ':' :: (padded 2 (second % 60 + leap) ++ (Timestamp.formatFraction n ++ ['Z'])))) =
      some ((second, leap * nanosPerSecond + n), ['Z']) := by
  have hours := fixedDigits?_padded 2 (second / 3600) (by decide) (by omega)
  have minutes := fixedDigits?_padded 2 (second / 60 % 60) (by decide) (by omega)
  have seconds (rest : List Char) :
      readSecond? (padded 2 (second % 60 + leap) ++ rest) =
        some ((second % 60, leap * nanosPerSecond), rest) :=
    readSecond?_padded (Nat.mod_lt second (by decide)) small last
  have whole : second / 3600 * 3600 + second / 60 % 60 * 60 + second % 60 = second := by omega
  simp only [readTimeOfDay?, hours, readMark?_cons, minutes, seconds, readFraction?_formatFraction part,
    Option.bind_eq_bind, Option.bind_some, whole]
  exact if_pos (by omega)

/-- What is written for a day and a time of day is read as the point in time that they make. -/
theorem readChars?_written (days : Int) {second leap : Nat} (inside : second < 86400) (small : leap < 2)
    (last : leap = 1 → second % 60 = 59) (part : n < nanosPerSecond) :
    Timestamp.readChars? (Timestamp.formatYear (Date.ofDays days).year ++
        '-' :: (padded 2 (Date.ofDays days).month ++ '-' :: (padded 2 (Date.ofDays days).day ++
        'T' :: (padded 2 (second / 3600) ++ ':' :: (padded 2 (second / 60 % 60) ++
        ':' :: (padded 2 (second % 60 + leap) ++ (Timestamp.formatFraction n ++ ['Z']))))))) =
      Timestamp.ofParts? (days * Timestamp.secsPerDay + second) (leap * nanosPerSecond + n) := by
  unfold Timestamp.readChars?
  rw [readDay?_ofDays, Option.bind_eq_bind, Option.bind_some]
  simp only
  rw [readMark?_cons, Option.bind_eq_bind, Option.bind_some, readTimeOfDay?_padded inside small last part,
    Option.bind_eq_bind, Option.bind_some]
  exact if_pos rfl

/-- A point in time whose leap second is in its place is read back from what is written for it. -/
theorem read?_format_of_leapInPlace {t : Timestamp} (inPlace : t.LeapInPlace) :
    Timestamp.read? t.format = some t := by
  have second : (t.secs % 86400).toNat < 86400 := by omega
  have leap : t.nanos / nanosPerSecond < 2 := Nat.div_lt_of_lt_mul (Nat.mul_comm .. ▸ t.nanos_lt)
  have last (ahead : t.nanos / nanosPerSecond = 1) : (t.secs % 86400).toNat % 60 = 59 := by
    have := inPlace (by unfold nanosPerSecond at *; omega)
    omega
  have part : t.nanos % nanosPerSecond < nanosPerSecond := Nat.mod_lt _ (by decide)
  have read := readChars?_written (t.secs / 86400) second leap last part
  have parts : Timestamp.ofParts? (t.secs / 86400 * 86400 + (t.secs % 86400).toNat)
      (t.nanos / nanosPerSecond * nanosPerSecond + t.nanos % nanosPerSecond) = some t :=
    Timestamp.ofParts?_eq_some_iff.mpr ⟨by omega, (Nat.div_add_mod' ..).symm, inPlace⟩
  rw [Timestamp.read?, Timestamp.format, String.toList_ofList]
  simpa [Timestamp.formatChars, Timestamp.secsPerDay] using read.trans parts

/-! ## Leap seconds out of their place -/

namespace Timestamp

/-- The point in time that a text written for `t` stands for: `t` itself, or the second behind it if `t` is in
a leap second that is out of its place. -/
def settled (t : Timestamp) : Timestamp :=
  if t.LeapInPlace then t
  else { secs := t.secs + 1, nanos := t.nanos - nanosPerSecond, nanos_lt := have := t.nanos_lt; by omega }

theorem not_leapInPlace_iff {t : Timestamp} :
    ¬ t.LeapInPlace ↔ nanosPerSecond ≤ t.nanos ∧ t.secs % 60 ≠ 59 := Classical.not_imp

theorem leapInPlace_settled (t : Timestamp) : t.settled.LeapInPlace := by
  unfold settled
  split
  · assumption
  · have := t.nanos_lt
    intro (ahead : nanosPerSecond ≤ t.nanos - nanosPerSecond)
    omega

theorem settled_eq_self_iff {t : Timestamp} : t.settled = t ↔ t.LeapInPlace := by
  constructor
  · exact fun same => same ▸ t.leapInPlace_settled
  · exact fun inPlace => if_pos inPlace

/-- A leap second out of its place never ends a minute, so the carry stays inside the seconds that are written. -/
theorem format_settled (t : Timestamp) : t.settled.format = t.format := by
  unfold settled
  split
  · rfl
  · next outside =>
    obtain ⟨ahead, notLast⟩ := not_leapInPlace_iff.mp outside
    have small := t.nanos_lt
    unfold nanosPerSecond at *
    have day : (t.secs + 1) / 86400 = t.secs / 86400 := by omega
    have second : ((t.secs + 1) % 86400).toNat = (t.secs % 86400).toNat + 1 := by omega
    have hours : ((t.secs % 86400).toNat + 1) / 3600 = (t.secs % 86400).toNat / 3600 := by omega
    have minutes : ((t.secs % 86400).toNat + 1) / 60 = (t.secs % 86400).toNat / 60 := by omega
    have seconds : ((t.secs % 86400).toNat + 1) % 60 + (t.nanos - 1000000000) / 1000000000 =
        (t.secs % 86400).toNat % 60 + t.nanos / 1000000000 := by omega
    have part : (t.nanos - 1000000000) % 1000000000 = t.nanos % 1000000000 := by omega
    simp only [format, formatChars, secsPerDay, nanosPerSecond, day, second, hours, minutes, seconds, part]

end Timestamp

/-- **What is read from the text of a point in time** is the point in time itself, with a leap second out of
its place carried over to the second behind it. -/
theorem read?_format (t : Timestamp) : Timestamp.read? t.format = some t.settled := by
  rw [← t.format_settled, read?_format_of_leapInPlace t.leapInPlace_settled]

example : (Timestamp.read? "2016-12-31T23:59:60.25Z").map (fun t => (t.secs, t.nanos)) =
    some (1483228799, 1250000000) := by decide

end Overseer.Time
