import Overseer.Load.Reading
import Overseer.Time.Duration

/-!
# The load that the system itself reports

The system counts how much time its processors have spent on each kind of work since the start.  The
load between two looks at these counts is the share of the time that was not idle.

## Main definitions

* `ProcessorTimes` — the counts
* `ProcessorTimes.ofReport?` — the counts in a report of the system
* `percentBetween` — the load between two looks
-/

namespace Overseer.Load

open Overseer.Text Overseer.Time

/-- What the processors have spent their time on, in ticks. -/
structure ProcessorTimes where
  /-- time spent at work -/
  busy : Nat
  /-- time spent waiting for work -/
  idle : Nat
  deriving DecidableEq, Repr, Inhabited

/-- The words of a line. -/
def words (line : List Char) : List (List Char) := (line.splitOn ' ').filter (!·.isEmpty)

/-- The sum of some counts. -/
def total (counts : List Nat) : Nat := counts.foldl (· + ·) 0

/-- The counts in the line of a report that is about all processors together.  The fourth and the
fifth count are idle time; those behind the eighth are contained in others. -/
def ProcessorTimes.ofLine? (line : List Char) : Option ProcessorTimes :=
  match words line with
  | name :: counts =>
    if name ≠ "cpu".toList then none
    else do
      let counts ← (counts.take 8).mapM unsignedChars?
      let idle := total ((counts.drop 3).take 2)
      some ⟨total counts - idle, idle⟩
  | [] => none

/-- The counts in a report of the system. -/
def ProcessorTimes.ofReport? (report : String) : Option ProcessorTimes :=
  (report.toList.splitOn '\n').findSome? ofLine?

/-- The system renews its counts so often that looks closer than this may see no time
between them. -/
def leastInterval : Duration := .ofMillis 200

/-- The share of `part` in `whole` as a percentage, rounded to the nearest whole one. -/
def percent (part whole : Nat) : Nat := (200 * part + whole) / (2 * whole)

/-- The load between two looks at the counts. -/
def percentBetween (before after : ProcessorTimes) : Except SampleError Nat :=
  let busy := after.busy - before.busy
  let whole := busy + (after.idle - before.idle)
  if whole = 0 then .error (.native "invalid usage value NaN")
  else .ok (min 100 (percent busy whole))

theorem percentBetween_le {before after : ProcessorTimes} {n : Nat}
    (h : percentBetween before after = .ok n) : n ≤ 100 := by
  simp only [percentBetween] at h
  split at h
  · simp at h
  · simp only [Except.ok.injEq] at h
    omega

end Overseer.Load
