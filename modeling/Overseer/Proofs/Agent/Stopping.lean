import Mathlib.Data.Nat.Find
import Overseer.Proofs.Agent.Deadlines
import Overseer.Proofs.Agent.Shifts

/-!
# Where the agent stops

A stop is looked for in front of each sample, never inside one, and before the tick.  So the timetable
alone says where a shift comes to its end: of the samples, the first one that would not begin ahead of the
stop is not taken any more (`Shift.StopsBehind`), whether the stop comes while the agent sweeps, while it
waits, in the midst of a sample or together with a tick.

## Main results

* `Shift.StopsBehind.eq_succ_of_during`, `Shift.StopsBehind.eq_succ_of_waiting`,
  `Shift.StopsBehind.eq_zero_iff` — how many samples there are, by what the stop meets
* `Shift.stopped_mem_run_of_accepted` — agents with accepted settings do stop
* `Shift.run_up_to_stop` — the whole run of an agent that is asked to stop
-/

namespace Overseer.Agent

namespace Shift

variable {s : Shift} {k n stop : Nat}

/-- A stop is met behind so many samples: they all begin ahead of it, and the next one would not. -/
structure StopsBehind (s : Shift) (stop n : Nat) : Prop where
  /-- each of the samples begins ahead of the stop -/
  ahead : ∀ k < n, s.begins k < stop
  /-- the stop is there when the next one could begin -/
  inTime : stop ≤ s.begins n

/-- Sooner or later there is a sample that would begin behind the stop. -/
theorem exists_stopsBehind (positive : 0 < s.period) (stop : Nat) : ∃ n, s.StopsBehind stop n := by
  have late : ∃ n, stop ≤ s.begins n := s.exists_le_begins positive stop
  exact ⟨Nat.find late, fun k small => Nat.not_le.mp (Nat.find_min late small), Nat.find_spec late⟩

/-- Samples begin one behind the other, so a stop is met behind one number of them only. -/
theorem StopsBehind.eq_succ (behind : s.StopsBehind stop n) (begun : s.begins k < stop)
    (inTime : stop ≤ s.begins (k + 1)) : n = k + 1 := by
  apply Nat.le_antisymm
  · by_contra more
    exact Nat.not_lt.mpr inTime (behind.ahead (k + 1) (Nat.not_le.mp more))
  · by_contra fewer
    have early : s.begins n ≤ s.begins k := s.begins_monotone (by omega)
    exact Nat.not_lt.mpr (Nat.le_trans behind.inTime early) begun

/-- A stop that comes during a sample is met behind it. -/
theorem StopsBehind.eq_succ_of_during (behind : s.StopsBehind stop n) (begun : s.begins k < stop)
    (inTime : stop ≤ s.ends k) : n = k + 1 :=
  behind.eq_succ begun (Nat.le_trans inTime (s.ends_le_begins_succ k))

/-- A stop that comes while the agent waits behind a sample is met at once. -/
theorem StopsBehind.eq_succ_of_waiting (behind : s.StopsBehind stop n) (ended : s.ends k < stop)
    (inTime : stop ≤ s.begins (k + 1)) : n = k + 1 :=
  behind.eq_succ (Nat.lt_of_le_of_lt (Nat.le_add_right _ _) ended) inTime

/-- No sample is taken exactly if the stop is there when the clock is started. -/
theorem StopsBehind.eq_zero_iff (behind : s.StopsBehind stop n) : n = 0 ↔ stop ≤ s.opened := by
  constructor
  · rintro rfl
    exact behind.inTime
  · intro early
    by_contra some
    exact Nat.not_lt.mpr early (behind.ahead 0 (Nat.pos_of_ne_zero some))

/-- A stop is noticed where a shift has come to. -/
theorem run_of_stopsBehind (asks : s.stopAt = some stop) (behind : s.StopsBehind stop n) {rounds : Nat}
    (enough : 2 * n + 2 ≤ rounds) :
    s.run rounds =
      (s.sweepDeeds ++ (List.range n).map s.sampleDeed ++ [.stopped], ⟨max stop (s.free n), n⟩) := by
  have loop := loop_up_to_stop (k := 0) asks n enough
    (fun j small => by simpa using behind.ahead j small) (by simpa using behind.inTime)
  rw [free, Nat.zero_add] at loop
  rw [run_eq, loop, List.append_assoc, List.range_eq_range']

/-- An agent with accepted settings stops when it is asked to. -/
theorem stopped_mem_run_of_accepted {lookup : String → Option String}
    (accepted : AgentConfig.ofLookup lookup = .ok s.config) (asks : s.stopAt = some stop) :
    ∃ enough, ∀ rounds, enough ≤ rounds → .stopped ∈ (s.run rounds).1 := by
  obtain ⟨n, behind⟩ := exists_stopsBehind (s := s) (AgentConfig.interval_pos accepted) stop
  refine ⟨2 * n + 2, fun rounds enough => ?_⟩
  rw [run_of_stopsBehind asks behind enough]
  simp

/-- **An agent stops where it should.**  Whatever its settings are, however long its samples take and
whatever comes of them: it sweeps, if it is to, takes its samples one after the other, each to its end,
and stops.  No sample is begun when the stop is there, even if its tick is due by then.  So a stop that
comes during a sample, or while the agent waits behind it, leaves it the last one, and a stop that is there
when the clock is started leaves none.  The stop is noticed at once, unless a sweep or a sample has to end
first.

A clock with no time between its ticks cannot be started, and accepted settings never ask for one
(`AgentConfig.interval_pos`). -/
theorem run_up_to_stop (s : Shift) {stop : Nat} (positive : 0 < s.period)
    (asks : s.stopAt = some stop) :
    ∃ n, (∀ rounds, 2 * n + 2 ≤ rounds → s.run rounds =
        (s.sweepDeeds ++ (List.range n).map s.sampleDeed ++ [.stopped], ⟨max stop (s.free n), n⟩)) ∧
      (∀ k, s.ends k ≤ s.begins (k + 1)) ∧
      (∀ k < n, s.begins k < stop) ∧
      (∀ k, s.begins k < stop → stop ≤ s.ends k → n = k + 1) ∧
      (∀ k, s.ends k < stop → stop ≤ s.begins (k + 1) → n = k + 1) ∧
      (n = 0 ↔ stop ≤ s.opened) := by
  obtain ⟨n, behind⟩ := exists_stopsBehind positive stop
  exact ⟨n, fun _ enough => run_of_stopsBehind asks behind enough, s.ends_le_begins_succ, behind.ahead,
    fun _ => behind.eq_succ_of_during, fun _ => behind.eq_succ_of_waiting, behind.eq_zero_iff⟩

/-- A tick each second.  The second sample misses two ticks and is in progress when the stop comes, at the
very time of a tick. -/
def overrun : Shift where
  config := { interval := .ofSecs 1, reapOnStart := some "helper" }
  start := 0
  sweepTime := fun _ => 500000000
  survivors := fun _ => [.permissionDenied 7]
  duration k := if k = 1 then 2200000000 else 300000000
  load k := 10 * k
  stopAt := some 2500000000

theorem run_up_to_stop_overrun :
    0 < overrun.period ∧ overrun.stopAt = some 2500000000 ∧
      overrun.run 6 = ([.sweeping "helper", .survived "helper" (.permissionDenied 7),
        .sampled 500000000 0, .sampled 1500000000 10, .stopped], ⟨3700000000, 2⟩) := by
  have positive : 0 < overrun.period := by decide
  obtain ⟨n, runs, -, -, during, -, -⟩ := run_up_to_stop overrun positive rfl
  obtain rfl : n = 2 := during 1 (by decide) (by decide)
  exact ⟨positive, rfl, (runs 6 (by decide)).trans (by decide +kernel)⟩

end Shift

end Overseer.Agent
