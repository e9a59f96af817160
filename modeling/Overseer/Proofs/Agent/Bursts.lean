import Mathlib.Data.List.Chain
import Mathlib.Data.List.Range
import Overseer.Proofs.Agent.Deadlines
import Overseer.Proofs.Agent.Shifts

/-!
# Samples close together

An agent that nobody stops takes a sample at each tick of its clock.  No sample begins ahead of its tick,
but the ticks that a slow sample has missed are made up for without delay.  So the interval between the
beginnings of two samples is only kept while all samples fit into it, or once none does any more
(`Shift.keepsInterval_iff`): a sample that takes longer than the interval is followed by a burst as soon
as one comes that takes less.

## Main definitions

* `beginnings` — when the samples of a run have begun
* `Shift.KeepsInterval` — between the beginnings of any two samples there is the interval

## Main results

* `Shift.begins_add_period_le_iff` — when two samples are the interval apart
* `Shift.keepsInterval_iff` — when all of them are
* `Shift.beginnings_of_run` — the beginnings of every run
* `Shift.interval_may_not_be_kept` — accepted settings with a burst
-/

namespace Overseer.Agent

open AgentConfig

/-- When the samples of a run have begun. -/
def beginnings (deeds : List Deed) : List Nat :=
  deeds.filterMap fun
    | .sampled start _ => some start
    | _ => none

theorem beginnings_append (first second : List Deed) :
    beginnings (first ++ second) = beginnings first ++ beginnings second :=
  List.filterMap_append

namespace Shift

variable {s : Shift} {j k : Nat}

/-- Any two samples that follow each other begin at least the interval apart. -/
def KeepsInterval (s : Shift) : Prop :=
  ∀ rounds, (beginnings (s.run rounds).1).IsChain fun first second => first + s.period ≤ second

theorem beginnings_sweepDeeds (s : Shift) : beginnings s.sweepDeeds = [] := by
  unfold sweepDeeds
  cases s.config.reapOnStart with
  | none => rfl
  | some pattern => simp [beginnings]

theorem beginnings_samples (s : Shift) (n : Nat) :
    beginnings ((List.range n).map s.sampleDeed) = (List.range n).map s.begins := by
  rw [beginnings, List.filterMap_map, ← List.filterMap_eq_map]
  rfl

/-- The samples of a run that nobody stops are those of the timetable, and no two rounds go by without
one. -/
theorem exists_beginnings_eq (never : s.stopAt = none) (rounds : Nat) :
    ∃ n, rounds ≤ 2 * n + 1 ∧ beginnings (s.run rounds).1 = (List.range n).map s.begins := by
  obtain ⟨n, state, enough, loop⟩ := exists_loop_of_never never rounds 0
  rw [free] at loop
  refine ⟨n, enough, ?_⟩
  rw [run_eq, loop, beginnings_append, beginnings_sweepDeeds, List.nil_append, ← List.range_eq_range',
    beginnings_samples]

/-- A run keeps the interval exactly if its timetable does. -/
theorem keepsInterval_iff_begins (never : s.stopAt = none) :
    s.KeepsInterval ↔ ∀ k, s.begins k + s.period ≤ s.begins (k + 1) := by
  constructor
  · intro keeps k
    -- So many rounds are enough for this sample and the next one.
    obtain ⟨n, enough, samples⟩ := exists_beginnings_eq never (2 * k + 4)
    have chain := keeps (2 * k + 4)
    rw [samples, List.isChain_map, List.isChain_range] at chain
    exact chain k (by omega)
  · intro apart rounds
    obtain ⟨n, -, samples⟩ := exists_beginnings_eq never rounds
    rw [samples, List.isChain_map, List.isChain_range]
    exact fun k _ => apart k

/-- Two samples are the interval apart if the first one is in time, or takes that long itself. -/
theorem begins_add_period_le_iff :
    s.begins k + s.period ≤ s.begins (k + 1) ↔ s.begins k = s.due k ∨ s.period ≤ s.duration k := by
  have early := s.due_le_begins k
  have next : s.begins (k + 1) = max (s.due k + s.period) (s.begins k + s.duration k) := by
    rw [begins, due_succ]
  omega

/-- A sample is late only behind one that takes longer than the interval. -/
theorem exists_slow_of_late (late : s.due k < s.begins k) : ∃ j < k, s.period < s.duration j := by
  induction k with
  | zero => simp [due, begins] at late
  | succ k ih =>
      by_cases before : s.due k < s.begins k
      · obtain ⟨j, small, slow⟩ := ih before
        exact ⟨j, Nat.lt_succ_of_lt small, slow⟩
      · have inTime : s.begins k = s.due k := Nat.le_antisymm (Nat.not_lt.mp before) (s.due_le_begins k)
        rw [begins, due_succ, inTime] at late
        exact ⟨k, Nat.lt_succ_self k, by omega⟩

/-- As long as the interval is kept, all samples behind a slow one are late. -/
theorem late_of_slow (apart : ∀ k, s.begins k + s.period ≤ s.begins (k + 1))
    (slow : s.period < s.duration j) (behind : j < k) : s.due k < s.begins k := by
  induction k, behind using Nat.le_induction with
  | base =>
      have early := s.due_le_begins j
      have ended := s.ends_le_begins_succ j
      rw [ends] at ended
      rw [Nat.succ_eq_add_one, due_succ]
      omega
  | succ k _ ih =>
      have next := apart k
      rw [due_succ]
      omega

/-- **When the interval is kept.**  Behind a sample that takes longer than the interval, every other one
must take that long, too. -/
theorem keepsInterval_iff (never : s.stopAt = none) :
    s.KeepsInterval ↔ ∀ j k, j < k → s.period < s.duration j → s.period ≤ s.duration k := by
  rw [keepsInterval_iff_begins never]
  constructor
  · intro apart j k behind slow
    have late := late_of_slow apart slow behind
    exact (begins_add_period_le_iff.mp (apart k)).resolve_left (Nat.ne_of_gt late)
  · intro stays k
    rw [begins_add_period_le_iff]
    by_cases late : s.due k < s.begins k
    · obtain ⟨j, behind, slow⟩ := exists_slow_of_late late
      exact Or.inr (stays j k behind slow)
    · exact Or.inl (Nat.le_antisymm (Nat.not_lt.mp late) (s.due_le_begins k))

/-- **When samples begin.**  An agent that nobody stops takes one sample after the other, each at its tick
or as soon behind it as the one before has ended.  So samples never run ahead of the clock.  Two samples
that follow each other are the interval apart exactly if the first one is in time or takes that long
itself, and all are exactly if no sample that is slower than the interval is ever followed by a faster
one. -/
theorem beginnings_of_run (s : Shift) (never : s.stopAt = none) :
    (∀ rounds, ∃ n, rounds ≤ 2 * n + 1 ∧
      beginnings (s.run rounds).1 = (List.range n).map s.begins) ∧
    (∀ k, s.opened + k * s.period ≤ s.begins k) ∧
    (∀ k, s.begins k + s.period ≤ s.begins (k + 1) ↔
      s.begins k = s.opened + k * s.period ∨ s.period ≤ s.duration k) ∧
    (s.KeepsInterval ↔ ∀ j k, j < k → s.period < s.duration j → s.period ≤ s.duration k) :=
  ⟨exists_beginnings_eq never, s.due_le_begins, fun _ => begins_add_period_le_iff,
    keepsInterval_iff never⟩

/-- A tick each second. -/
def everySecond : String → Option String
  | "METRICS_INTERVAL_SECS" => some "1"
  | _ => none

/-- The first sample takes more than two seconds, all others are quick. -/
def stalled : Shift where
  config := { interval := .ofSecs 1 }
  start := 0
  sweepTime := fun _ => 0
  survivors := fun _ => []
  duration k := if k = 0 then 2200000000 else 10000000
  load := fun _ => 1
  stopAt := none

theorem ofLookup_everySecond : ofLookup everySecond = .ok stalled.config := by
  have written : ¬Text.Blank "1" := fun blank => absurd (blank '1' (by simp)) (by decide)
  have given : given? everySecond .interval = some "1" := given?_eq_some_iff.mpr ⟨rfl, written⟩
  have interval : timeOf everySecond .interval defaultInterval = .ok stalled.config.interval :=
    timeOf_eq_ok_iff.mpr (Or.inr ⟨_, given, parseSecs_eq_ok_iff.mpr (by decide +kernel)⟩)
  have timeout : timeOf everySecond .timeout defaultTimeout = .ok stalled.config.timeout :=
    timeOf_eq_ok_iff.mpr (Or.inl ⟨by decide +kernel, rfl⟩)
  exact ofLookup_eq_ok_iff.mpr
    ⟨by decide +kernel, by decide +kernel, timeout, interval, by decide +kernel⟩

/-- The ticks that have been missed are made up for: the third sample begins as soon as the second one has
ended. -/
theorem beginnings_of_stalled : stalled.stopAt = none ∧ ¬stalled.KeepsInterval ∧
    beginnings (stalled.run 3).1 = [0, 2200000000, 2210000000] := by
  obtain ⟨-, -, -, keeps⟩ := beginnings_of_run stalled rfl
  refine ⟨rfl, fun kept => ?_, by decide +kernel⟩
  have slow : stalled.period ≤ stalled.duration 1 := keeps.mp kept 0 1 (by decide) (by decide)
  exact absurd slow (by decide)

/-- **Accepted settings do not keep samples from coming in a burst.** -/
theorem interval_may_not_be_kept :
    ¬∀ (lookup : String → Option String) (s : Shift),
      ofLookup lookup = .ok s.config → s.stopAt = none → s.KeepsInterval := by
  intro all
  have kept := all everySecond stalled ofLookup_everySecond rfl
  have slow := (keepsInterval_iff rfl).mp kept 0 1 (by decide) (by decide)
  exact absurd slow (by decide)

end Shift

end Overseer.Agent
