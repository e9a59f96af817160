import Mathlib.Data.List.Basic
import Mathlib.Order.Monotone.Basic
import Overseer.Agent.Daemon
import Overseer.Proofs.Supervision.Programs

/-!
# Shifts of the agent

A *shift* is all that an agent meets from its start on: its settings, how long the sweep and each of the
samples take and what comes of them, and when somebody asks it to stop.  It gives surroundings in which
the agent can be run, and a timetable that does not speak of the agent's loop at all: the sample before has
to end, the tick of the next one has to be due, and then that one begins (`Shift.begins`).

`loop_up_to_stop` and `exists_loop_of_never` tie the two together: the loop takes the samples of the
timetable one after the other, and the first one for which a stop comes in time is not taken any more.

## Main definitions

* `Shift`, `Moment`, `Shift.surroundings` — what an agent meets
* `Shift.due`, `Shift.begins`, `Shift.ends` — the timetable
* `Shift.run`, `Shift.loop` — the run of an agent through a shift, and its loop
-/

namespace Overseer.Agent

open Overseer.Processes

/-- What an agent meets from its start on.  All times are in nanoseconds. -/
structure Shift where
  /-- its settings -/
  config : AgentConfig
  /-- when it starts -/
  start : Nat
  /-- how long a sweep takes -/
  sweepTime : String → Nat
  /-- which kills of a sweep fail -/
  survivors : String → List ReaperError
  /-- how long each sample takes, counted from 0 -/
  duration : Nat → Nat
  /-- the load that comes of each sample -/
  load : Nat → Nat
  /-- when it is asked to stop, if it ever is -/
  stopAt : Option Nat

/-- How far a shift has come. -/
structure Moment where
  /-- the time -/
  now : Nat
  /-- so many samples have been taken -/
  taken : Nat
  deriving DecidableEq, Repr

namespace Shift

variable (s : Shift)

/-- A stop has been requested by this time. -/
def asksBy (time : Nat) : Bool := s.stopAt.any fun stop => decide (stop ≤ time)

/-- When the agent wakes that waits for a tick, or for a request to stop. -/
def wakesAt (tick : Nat) : Nat := s.stopAt.elim tick fun stop => min tick stop

/-- A shift as the surroundings of an agent. -/
def surroundings : Surroundings Moment where
  clock := fun m => (m.now, m)
  stopRequested := fun m => (s.asksBy m.now, m)
  waitUntil time := fun m => ((), { m with now := max m.now (s.wakesAt time) })
  sweep pattern := fun m => (s.survivors pattern, { m with now := m.now + s.sweepTime pattern })
  sample := fun m => (s.load m.taken, ⟨m.now + s.duration m.taken, m.taken + 1⟩)

/-- The run of an agent through a shift: what it does, and when that ends. -/
def run (rounds : Nat) : List Deed × Moment :=
  (runAgent s.surroundings s.config rounds).run ⟨s.start, 0⟩

/-! ## The timetable -/

/-- The distance of two ticks. -/
def period : Nat := s.config.interval.nanoseconds

/-- When the clock is started: behind the sweep, if there is one. -/
def opened : Nat := s.start + (s.config.reapOnStart.map s.sweepTime).getD 0

/-- When the tick for a sample is due. -/
def due (k : Nat) : Nat := s.opened + k * s.period

/-- When a sample begins, as long as nobody asks for a stop: at its tick, or when the one before it has
ended, whichever is later. -/
def begins : Nat → Nat
  | 0 => s.opened
  | k + 1 => max (s.due (k + 1)) (begins k + s.duration k)

/-- When a sample ends. -/
def ends (k : Nat) : Nat := s.begins k + s.duration k

/-- When the agent has nothing to do but to wait for a sample. -/
def free : Nat → Nat
  | 0 => s.opened
  | k + 1 => s.ends k

/-- What the agent does before its clock is started. -/
def sweepDeeds : List Deed :=
  match s.config.reapOnStart with
  | some pattern => .sweeping pattern :: (s.survivors pattern).map (.survived pattern)
  | none => []

/-- Taking a sample. -/
def sampleDeed (k : Nat) : Deed := .sampled (s.begins k) (s.load k)

variable {s} {k n rounds stop : Nat}

theorem begins_eq_max : s.begins k = max (s.due k) (s.free k) := by
  cases k with
  | zero => simp [begins, due, free]
  | succ k => rfl

/-- No sample begins ahead of its tick. -/
theorem due_le_begins (s : Shift) (k : Nat) : s.due k ≤ s.begins k := by
  rw [begins_eq_max]
  exact Nat.le_max_left _ _

theorem due_succ : s.due (k + 1) = s.due k + s.period := by
  rw [due, due, Nat.succ_mul, Nat.add_assoc]

/-- A sample runs to its end before the next one begins. -/
theorem ends_le_begins_succ (s : Shift) (k : Nat) : s.ends k ≤ s.begins (k + 1) :=
  Nat.le_max_right _ _

theorem begins_monotone (s : Shift) : Monotone s.begins := by
  refine monotone_nat_of_le_succ fun k => ?_
  exact Nat.le_trans (Nat.le_add_right _ _) (s.ends_le_begins_succ k)

/-- Ticks that have a distance go beyond every time. -/
theorem exists_le_begins (positive : 0 < s.period) (time : Nat) : ∃ k, time ≤ s.begins k := by
  refine ⟨time, Nat.le_trans ?_ (s.due_le_begins time)⟩
  exact Nat.le_trans (Nat.le_mul_of_pos_right time positive) (Nat.le_add_left _ _)

/-! ## The loop -/

theorem asksBy_eq_true_iff {time : Nat} (asks : s.stopAt = some stop) :
    s.asksBy time = true ↔ stop ≤ time := by
  simp [asksBy, asks]

theorem asksBy_eq_false_iff {time : Nat} :
    s.asksBy time = false ↔ ∀ stop, s.stopAt = some stop → time < stop := by
  cases asks : s.stopAt <;> simp [asksBy, asks]

theorem run_stopRequested (m : Moment) : s.surroundings.stopRequested.run m = (s.asksBy m.now, m) :=
  rfl

theorem run_clock (m : Moment) : s.surroundings.clock.run m = (m.now, m) :=
  rfl

/-- The loop at some time in front of a sample. -/
def loop (s : Shift) (rounds k time : Nat) : List Deed × Moment :=
  (runFor s.surroundings rounds ⟨s.due k, s.period⟩).run ⟨time, k⟩

section

variable {time : Nat}

theorem loop_of_asked (asked : s.asksBy time = true) :
    s.loop (rounds + 1) k time = ([.stopped], ⟨time, k⟩) := by
  rw [loop, runFor, run_bind, run_stopRequested, asked]
  rfl

/-- A sample begins whose tick is due. -/
theorem loop_of_due (unasked : s.asksBy time = false) (due : s.due k ≤ time) :
    s.loop (rounds + 1) k time =
      (.sampled time (s.load k) :: (s.loop rounds (k + 1) (time + s.duration k)).1,
        (s.loop rounds (k + 1) (time + s.duration k)).2) := by
  rw [loop, runFor, run_bind, run_stopRequested, unasked]
  dsimp only
  rw [if_neg Bool.false_ne_true, run_bind, run_clock]
  dsimp only
  rw [if_pos due, run_bind, loop, due_succ]
  rfl

/-- A tick that is not due is waited for. -/
theorem loop_of_early (unasked : s.asksBy time = false) (early : time < s.due k) :
    s.loop (rounds + 1) k time = s.loop rounds k (max time (s.wakesAt (s.due k))) := by
  rw [loop, runFor, run_bind, run_stopRequested, unasked]
  dsimp only
  rw [if_neg Bool.false_ne_true, run_bind, run_clock]
  dsimp only
  rw [if_neg (Nat.not_le.mpr early), run_bind]
  rfl

end

/-- A stop that comes before a sample begins, or just then, ends the loop. -/
theorem loop_of_stop (asks : s.stopAt = some stop) (inTime : stop ≤ s.begins k) :
    s.loop (rounds + 2) k (s.free k) = ([.stopped], ⟨max stop (s.free k), k⟩) := by
  by_cases asked : stop ≤ s.free k
  · rw [loop_of_asked ((asksBy_eq_true_iff asks).mpr asked), Nat.max_eq_right asked]
  · have unasked : s.asksBy (s.free k) = false := by
      rw [← Bool.not_eq_true, asksBy_eq_true_iff asks]
      exact asked
    rw [begins_eq_max] at inTime
    -- The agent waits for the tick, and the stop wakes it.
    have wakes : max (s.free k) (s.wakesAt (s.due k)) = max stop (s.free k) := by
      rw [wakesAt, asks, Option.elim_some]
      omega
    rw [loop_of_early unasked (by omega), wakes]
    exact loop_of_asked ((asksBy_eq_true_iff asks).mpr (Nat.le_max_left _ _))

/-- A sample is taken when no stop comes before it begins.  The loop needs one round for it, or two. -/
theorem exists_loop_of_later (rounds : Nat) (later : ∀ stop, s.stopAt = some stop → s.begins k < stop) :
    ∃ left, rounds ≤ left ∧ left ≤ rounds + 1 ∧ s.loop (rounds + 2) k (s.free k) =
      (s.sampleDeed k :: (s.loop left (k + 1) (s.free (k + 1))).1,
        (s.loop left (k + 1) (s.free (k + 1))).2) := by
  have start := begins_eq_max (s := s) (k := k)
  have unasked : s.asksBy (s.begins k) = false := asksBy_eq_false_iff.mpr later
  by_cases due : s.due k ≤ s.free k
  · rw [Nat.max_eq_right due] at start
    rw [← start, loop_of_due unasked (s.due_le_begins k)]
    exact ⟨rounds + 1, Nat.le_succ rounds, Nat.le_refl _, rfl⟩
  · have early : s.free k < s.due k := Nat.not_le.mp due
    rw [Nat.max_eq_left (Nat.le_of_lt early)] at start
    have unaskedYet : s.asksBy (s.free k) = false := by
      rw [asksBy_eq_false_iff] at unasked ⊢
      intro stop asks
      exact Nat.lt_trans (start ▸ early) (unasked stop asks)
    have wakes : max (s.free k) (s.wakesAt (s.due k)) = s.begins k := by
      rw [wakesAt]
      cases asks : s.stopAt with
      | none =>
          rw [Option.elim_none]
          omega
      | some stop =>
          have behind := later stop asks
          rw [Option.elim_some]
          omega
    rw [loop_of_early unaskedYet early, wakes, loop_of_due unasked (s.due_le_begins k)]
    exact ⟨rounds, Nat.le_refl _, Nat.le_succ rounds, rfl⟩

/-- **The loop up to a stop.**  It takes the samples that begin before the stop comes, one after the
other, and no further one. -/
theorem loop_up_to_stop (asks : s.stopAt = some stop) (m : Nat) (enough : 2 * m + 2 ≤ rounds)
    (before : ∀ j < m, s.begins (k + j) < stop) (inTime : stop ≤ s.begins (k + m)) :
    s.loop rounds k (s.free k) =
      ((List.range' k m).map s.sampleDeed ++ [.stopped],
        ⟨max stop (s.free (k + m)), k + m⟩) := by
  induction m generalizing k rounds with
  | zero =>
      obtain ⟨more, rfl⟩ := Nat.exists_eq_add_of_le' enough
      exact loop_of_stop asks inTime
  | succ m ih =>
      obtain ⟨more, rfl⟩ := Nat.exists_eq_add_of_le' (Nat.le_trans (Nat.le_add_left 2 _) enough)
      have later : ∀ stop, s.stopAt = some stop → s.begins k < stop := by
        intro stop asks'
        obtain rfl := Option.some.inj (asks.symm.trans asks')
        exact before 0 (Nat.succ_pos m)
      obtain ⟨left, least, -, took⟩ := exists_loop_of_later more later
      have shift (j : Nat) : k + (j + 1) = k + 1 + j := by omega
      rw [shift] at inTime ⊢
      have before' : ∀ j < m, s.begins (k + 1 + j) < stop := by
        intro j small
        rw [← shift]
        exact before (j + 1) (Nat.succ_lt_succ small)
      rw [took, ih (by omega) before' inTime, List.range'_succ]
      rfl

/-- **The loop without a stop.**  It takes one sample after the other, and no two rounds go by without
one. -/
theorem exists_loop_of_never (never : s.stopAt = none) (rounds k : Nat) :
    ∃ m state, rounds ≤ 2 * m + 1 ∧
      s.loop rounds k (s.free k) = ((List.range' k m).map s.sampleDeed, state) := by
  have unasked (time : Nat) : s.asksBy time = false := by
    rw [asksBy, never]
    rfl
  induction rounds using Nat.strong_induction_on generalizing k with
  | _ rounds ih =>
      match rounds with
      | 0 => exact ⟨0, _, Nat.zero_le _, rfl⟩
      | 1 =>
          by_cases due : s.due k ≤ s.free k
          · have start : s.begins k = s.free k := by rw [begins_eq_max, Nat.max_eq_right due]
            rw [loop_of_due (unasked _) due, ← start]
            exact ⟨1, _, by omega, rfl⟩
          · rw [loop_of_early (unasked _) (Nat.not_le.mp due)]
            exact ⟨0, _, Nat.le_refl _, rfl⟩
      | rounds + 2 =>
          obtain ⟨left, least, most, took⟩ := exists_loop_of_later rounds
            (s := s) (k := k) (by simp [never])
          obtain ⟨m, state, enough, rest⟩ := ih left (by omega) (k + 1)
          refine ⟨m + 1, state, by omega, ?_⟩
          rw [took, rest, List.range'_succ]
          rfl

/-! ## The whole run -/

/-- The agent sweeps, if it is to, and then its loop begins. -/
theorem run_eq (s : Shift) (rounds : Nat) :
    s.run rounds = (s.sweepDeeds ++ (s.loop rounds 0 s.opened).1, (s.loop rounds 0 s.opened).2) := by
  have started : s.due 0 = s.opened := by simp [due]
  rw [loop, started, opened, sweepDeeds]
  unfold run runAgent
  cases s.config.reapOnStart with
  | none => rfl
  | some pattern => rfl

end Shift

end Overseer.Agent
