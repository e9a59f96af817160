import Overseer.Proofs.Capture.Settling

/-!
# Lines that come while the drain sweeps

A drain that leaves its main loop takes what is left in the channels, first of the one stream, then of
the other, each until it finds the channel empty.  Its readers do not wait for that: a descendant that
goes on writing keeps them at work, and what they put into a channel before its sweep has ended is
taken, too.

`drain_of_left` says what this comes to, for every run.  Of each stream the drain takes what was in the
channel when it left, never more than the channel takes, and behind that every line that comes late
(`lateLines`); and its steps to the end are as many as these lines, and two.  So it keeps only what was
queued exactly if no line comes late, and nothing in the capture sees to that: there is no bound on how
many of them may come (`late_lines_are_taken`).

## Main definitions

* `Action.ofDrain` — the steps of the drain
* `chatter` — so many lines, each of which comes and is taken before the next
* `SweepsInVain` — the drain sweeps a channel, and nothing has come yet that it could take
-/

namespace Overseer.Capture

/-- The drain takes the action. -/
def Action.ofDrain : Action → Bool
  | .receive _ | .hangUp _ | .leave | .sweepEnd _ => true
  | .read _ _ | .readEnd _ | .send _ | .cancel => false

namespace Lane

variable {lane final : Lane} {steps : List LaneStep}

/-- A channel never holds more lines than it takes. -/
theorem length_queue_le (ran : Run lane steps final)
    (fits : lane.queue.length ≤ channelCapacity) : final.queue.length ≤ channelCapacity := by
  induction ran with
  | nil lane => exact fits
  | @cons lane final step steps allowed rest ih =>
      apply ih
      cases step with
      | read bytes => exact fits
      | readEnd => exact fits
      | send =>
          obtain ⟨line, more, next⟩ := List.exists_cons_of_ne_nil allowed.1
          simpa [perform, send_eq next] using Nat.succ_le_of_lt allowed.2
      | receive =>
          obtain ⟨line, more, next⟩ := List.exists_cons_of_ne_nil allowed
          rw [next, List.length_cons] at fits
          simpa [perform, receive_eq next] using Nat.le_of_succ_le fits
      | hangUp => exact fits

end Lane

namespace Pipeline

variable {p q : Pipeline} {a : Action} {actions : List Action}

/-! ## How many steps the drain takes -/

/-- An action of the drain behind its main loop takes a line or comes closer to the end. -/
theorem rank_perform (ok : p.enabled a = true) (left : p.phase ≠ .merging) :
    a.ofDrain.toNat + (p.perform a).phase.rank =
      (p.takenBy a .stdout).length + (p.takenBy a .stderr).length + p.phase.rank := by
  cases a with
  | read t bytes | readEnd t | send t => simp [Action.ofDrain, takenBy, perform]
  | cancel => simp [Action.ofDrain, takenBy, perform]
  | receive t =>
      obtain ⟨line, more, next⟩ : ∃ line more, (p.lane t).queue = line :: more :=
        List.exists_cons_of_ne_nil (by simp_all [enabled])
      cases t <;> simp [Action.ofDrain, takenBy, perform, next]
  | hangUp t => exact absurd (by simp_all [enabled]) left
  | leave => exact absurd (by simp_all [enabled]) left
  | sweepEnd t =>
      have sweeping := (phase_of_sweepEnd ok).1
      cases t <;> simp [Action.ofDrain, takenBy, perform, sweeping, Phase.rank, Phase.afterSweep]

theorem left_perform (ok : p.enabled a = true) (left : p.phase ≠ .merging) :
    (p.perform a).phase ≠ .merging := by
  cases a with
  | sweepEnd t => cases t <;> simp [perform, Phase.afterSweep]
  | leave => simp [perform]
  | _ => simpa [perform] using left

/-- **Behind its main loop, the drain takes a step for each line, and one to end each sweep.** -/
theorem countP_ofDrain (ran : p.run? actions = some q) (left : p.phase ≠ .merging) :
    actions.countP Action.ofDrain + q.phase.rank =
      ((p.lane .stdout).taken (steps .stdout actions)).length +
        ((p.lane .stderr).taken (steps .stderr actions)).length + p.phase.rank := by
  induction actions generalizing p with
  | nil =>
      obtain rfl : p = q := by simpa [run?] using ran
      simp [steps, Lane.taken]
  | cons a actions ih =>
      obtain ⟨ok, rest⟩ := run?_cons_eq_some_iff.mp ran
      have here := rank_perform ok left
      have later := ih rest (left_perform ok left)
      have count : (a :: actions).countP Action.ofDrain =
          actions.countP Action.ofDrain + a.ofDrain.toNat := by
        cases drains : a.ofDrain <;> simp [drains]
      rw [count, taken_steps_cons, taken_steps_cons, List.length_append, List.length_append]
      omega

end Pipeline

open Pipeline

variable {before after : List Action} {p q : Pipeline}

/-- **What the drain does once it has left its main loop.**  Of each stream it takes the lines that
were in the channel at that moment, no more than the channel takes, and behind them the lines that come
late; these are none exactly if it takes no others.  It takes a step for each of these lines and two
more, one to end each sweep. -/
theorem drain_of_left (ran : Pipeline.run? {} before = some p)
    (rest : p.run? (.leave :: after) = some q) (done : q.finished = true) :
    (∀ s, (q.lane s).captured =
        ((p.lane s).queue ++ p.lateLines s after).foldl appendLine (p.lane s).captured ∧
      (p.lane s).queue.length ≤ channelCapacity ∧
      ((p.lane s).taken (steps s after) = (p.lane s).queue ↔ p.lateLines s after = [])) ∧
    after.countP Action.ofDrain =
      (p.lane .stdout).queue.length + (p.lateLines .stdout after).length +
        ((p.lane .stderr).queue.length + (p.lateLines .stderr after).length) + 2 := by
  obtain ⟨-, onward⟩ := run?_cons_eq_some_iff.mp rest
  have same : ∀ s, (p.perform .leave).lane s = p.lane s := fun s => by cases s <;> rfl
  have taken : ∀ s, (p.lane s).taken (steps s after) =
      (p.lane s).queue ++ p.lateLines s after := by
    intro s
    have sweep := taken_of_sweep onward (by cases s <;> rfl) (swept_of_finished done s)
    rwa [lateLines, same] at sweep
  refine ⟨fun s => ⟨?_, ?_, ?_⟩, ?_⟩
  · rw [← taken s, ← same s]
    exact Lane.captured_eq_foldl (lane_run s onward)
  · apply Lane.length_queue_le (lane_run_start s ran)
    exact Nat.zero_le _
  · rw [taken s, List.append_right_eq_self]
  · have steps := countP_ofDrain onward (by simp [perform])
    have ended : q.phase = .done := by simpa [finished] using done
    rw [same, same, taken, taken, List.length_append, List.length_append, ended] at steps
    simpa [perform, Phase.rank] using steps

/-- A line is put into the channel, and the drain is told to end before it takes it. -/
def queuedLine : List Action := [.read .stdout "a\n".toUTF8, .send .stdout, .cancel]

/-- Another line comes during the sweep, which takes both. -/
def sweepOfTwo : List Action :=
  [.read .stdout "b\n".toUTF8, .send .stdout, .receive .stdout, .receive .stdout,
    .sweepEnd .stdout, .sweepEnd .stderr]

/-- One line was in the channel and one comes late: both are taken, in four steps of the drain. -/
theorem drain_of_sweepOfTwo :
    ∃ p q, Pipeline.run? {} queuedLine = some p ∧ p.run? (.leave :: sweepOfTwo) = some q ∧
      q.finished = true ∧ p.stdout.queue = ["a"] ∧ p.lateLines .stdout sweepOfTwo = ["b"] ∧
      q.stdout.captured = "a\nb\n" ∧ sweepOfTwo.countP Action.ofDrain = 4 := by
  have ends := @drain_of_left queuedLine sweepOfTwo _ _ rfl rfl rfl
  refine ⟨_, _, rfl, rfl, rfl, rfl, rfl, ?_, ends.2⟩
  exact (ends.1 .stdout).1

/-! ## There is no bound on the late lines -/

/-- So many empty lines, each of which is read, sent and taken before the next one comes. -/
def chatter : Nat → List Action
  | 0 => []
  | n + 1 => .read .stdout "\n".toUTF8 :: .send .stdout :: .receive .stdout :: chatter n

/-- The drain sweeps the channel of the standard output, and nothing has come yet that it could
take. -/
structure SweepsInVain (p : Pipeline) : Prop where
  phase : p.phase = .sweeping .stdout
  reader : p.stdout.reader = {}
  backlog : p.stdout.backlog = []
  ended : p.stdout.ended = false
  queue : p.stdout.queue = []
  stderr : p.stderr.queue = []

/-- A line of the chatter leaves the drain where it was. -/
theorem exists_run_chatter (inVain : SweepsInVain p) (n : Nat) :
    ∃ q, p.run? (chatter n) = some q ∧ SweepsInVain q := by
  induction n generalizing p with
  | zero => exact ⟨p, rfl, inVain⟩
  | succ n ih =>
      obtain ⟨⟨reader, backlog, ended, queue, listening, captured⟩, err, phase, cancelled⟩ := p
      obtain ⟨rfl, rfl, rfl, rfl, rfl, stderr⟩ := inVain
      have next : SweepsInVain ⟨⟨{}, [], false, [], listening, appendLine captured ""⟩, err,
        .sweeping .stdout, cancelled⟩ := ⟨rfl, rfl, rfl, rfl, rfl, stderr⟩
      obtain ⟨q, ran, last⟩ := ih next
      exact ⟨q, ran, last⟩

theorem countP_chatter (n : Nat) : (chatter n).countP Action.ofDrain = n := by
  induction n with
  | zero => rfl
  | succ n ih =>
      rw [chatter, List.countP_cons_of_neg (by simp [Action.ofDrain]),
        List.countP_cons_of_neg (by simp [Action.ofDrain]), List.countP_cons_of_pos rfl, ih]

/-- A drain that sweeps in vain may end. -/
theorem exists_run_sweepEnds (inVain : SweepsInVain p) :
    ∃ q, p.run? [.sweepEnd .stdout, .sweepEnd .stderr] = some q ∧ q.finished = true := by
  have first : p.enabled (.sweepEnd .stdout) = true := by
    simp [enabled, lane, inVain.phase, inVain.queue]
  have second : (p.perform (.sweepEnd .stdout)).enabled (.sweepEnd .stderr) = true := by
    simp [enabled, lane, perform, Phase.afterSweep, inVain.stderr]
  refine ⟨_, run?_cons_eq_some_iff.mpr ⟨first, run?_cons_eq_some_iff.mpr ⟨second, rfl⟩⟩, ?_⟩
  rfl

/-- A drain that has been told to end may take as many steps to its end as one likes. -/
theorem exists_long_sweep (n : Nat) : ∃ after q,
    (Pipeline.perform {} .cancel).run? (.leave :: after) = some q ∧ q.finished = true ∧
      n < after.countP Action.ofDrain := by
  have inVain : SweepsInVain ((Pipeline.perform {} .cancel).perform .leave) :=
    ⟨rfl, rfl, rfl, rfl, rfl, rfl⟩
  obtain ⟨m, ran, still⟩ := exists_run_chatter inVain n
  obtain ⟨q, ends, done⟩ := exists_run_sweepEnds still
  refine ⟨chatter n ++ [.sweepEnd .stdout, .sweepEnd .stderr], q, ?_, done, ?_⟩
  · exact run?_cons_eq_some_iff.mpr ⟨rfl, run?_append_eq_some_iff.mpr ⟨m, ran, ends⟩⟩
  · rw [List.countP_append, countP_chatter]
    exact Nat.lt_add_of_pos_right (by decide)

/-- **Lines that come late are taken, and there is no bound on them.**  It is not true that a drain
that has been told to end takes only what is in the channels when it leaves its main loop, and its steps
from there to the end are not bounded. -/
theorem late_lines_are_taken :
    (¬∀ (s : Stream) (before after : List Action) (p q : Pipeline),
      Pipeline.run? {} before = some p → p.cancelled = true →
      p.run? (.leave :: after) = some q → q.finished = true →
      (p.lane s).taken (steps s after) = (p.lane s).queue) ∧
    ∀ bound, ¬∀ (before after : List Action) (p q : Pipeline),
      Pipeline.run? {} before = some p → p.cancelled = true →
      p.run? (.leave :: after) = some q → q.finished = true →
      after.countP Action.ofDrain ≤ bound := by
  refine ⟨fun kept => ?_, fun bound bounded => ?_⟩
  · have taken := kept .stdout [.cancel] (chatter 1 ++ [.sweepEnd .stdout, .sweepEnd .stderr])
      _ _ rfl rfl rfl rfl
    exact absurd taken (by decide)
  · obtain ⟨after, q, ran, done, long⟩ := exists_long_sweep bound
    have short := bounded [.cancel] after _ q rfl rfl ran done
    omega

end Overseer.Capture
