import Overseer.Proofs.Capture.Runs

/-!
# The sweep of a channel

Behind its main loop, the drain takes what is left in the channels, first of the one stream, then of
the other, each until it finds the channel empty.  `taken_of_sweep` says what that is, for every run:
the lines that were in the channel, and behind them every line that comes late, before the sweep of
that channel has ended (`lateLines`).  For the sweep ends when the channel is empty
(`exists_run_untilSwept`), and the drain does not go back to it (`swept_perform`).

## Main definitions

* `untilSwept` — the actions before the sweep of a channel ends
* `Pipeline.lateLines` — the lines that a reader sends before the sweep of its channel has ended
* `Pipeline.takenBy` — the line that one action takes out of a channel
-/

namespace Overseer.Capture

/-- The action ends the sweep of a channel. -/
def Action.endsSweep (s : Stream) : Action → Bool
  | .sweepEnd t => t == s
  | _ => false

/-- The actions before the sweep of a channel ends. -/
def untilSwept (s : Stream) (actions : List Action) : List Action :=
  actions.takeWhile fun a => !a.endsSweep s

namespace Pipeline

variable {p q : Pipeline} {a : Action} {actions : List Action} {s : Stream}

/-- The lines that a reader puts into its channel before the sweep of that channel has ended. -/
def lateLines (p : Pipeline) (s : Stream) (actions : List Action) : List String :=
  (p.lane s).sent (steps s (untilSwept s actions))

/-- The line that an action takes out of the channel of a stream, if it does. -/
def takenBy (p : Pipeline) (a : Action) (s : Stream) : List String :=
  match a with
  | .receive t => if t = s then (p.lane s).queue.head?.toList else []
  | _ => []

/-- What is taken in a list of actions is what the first of them takes, and the rest behind it. -/
theorem taken_steps_cons (p : Pipeline) (a : Action) (actions : List Action) (s : Stream) :
    (p.lane s).taken (steps s (a :: actions)) =
      p.takenBy a s ++ ((p.perform a).lane s).taken (steps s actions) := by
  have split : steps s (a :: actions) = (a.step? s).toList ++ steps s actions := by
    cases mine : a.step? s <;> simp [steps, mine]
  rw [split, lane_perform]
  cases a with
  | read t bytes | readEnd t | send t | receive t | hangUp t =>
      by_cases here : t = s <;> simp [Action.step?, takenBy, Lane.taken, here]
  | cancel | leave | sweepEnd t => rfl

/-! ## Behind the sweep of a channel -/

theorem phase_of_sweepEnd (ok : p.enabled (.sweepEnd s) = true) :
    p.phase = .sweeping s ∧ (p.lane s).queue = [] := by
  simpa [enabled] using ok

/-- The drain does not go back to a channel that it has swept. -/
theorem swept_perform (ok : p.enabled a = true) (behind : p.swept s = true) :
    (p.perform a).swept s = true := by
  cases a with
  | sweepEnd t =>
      have sweeping := (phase_of_sweepEnd ok).1
      cases s <;> cases t <;> simp_all [swept, perform, Phase.afterSweep]
  | leave =>
      have inside : p.phase = .merging := by simp_all [enabled]
      cases s <;> simp [swept, inside] at behind
  | cancel => cases s <;> exact behind
  | read t bytes | readEnd t | send t | receive t | hangUp t =>
      cases s <;> simpa [swept, perform] using behind

/-- Only the end of its sweep brings the drain behind a channel. -/
theorem swept_perform_of_other (ok : p.enabled a = true) (other : a.endsSweep s = false)
    (before : p.swept s = false) : (p.perform a).swept s = false := by
  cases a with
  | sweepEnd t =>
      have sweeping := (phase_of_sweepEnd ok).1
      cases s <;> cases t <;> simp_all [swept, perform, Phase.afterSweep, Action.endsSweep]
  | leave => cases s <;> rfl
  | cancel => cases s <;> exact before
  | read t bytes | readEnd t | send t | receive t | hangUp t =>
      cases s <;> simpa [swept, perform] using before

/-- Out of a channel that it has swept, the drain takes nothing more. -/
theorem takenBy_of_swept (ok : p.enabled a = true) (behind : p.swept s = true) :
    p.takenBy a s = [] := by
  cases a with
  | receive t =>
      by_cases here : t = s
      · subst here
        have takes : p.takes t = true := (Bool.and_eq_true_iff.mp ok).1
        cases t <;> cases phase : p.phase <;> simp_all [swept, Pipeline.takes]
      · simp [takenBy, here]
  | _ => rfl

theorem taken_of_swept (ran : p.run? actions = some q) (behind : p.swept s = true) :
    (p.lane s).taken (steps s actions) = [] := by
  induction actions generalizing p with
  | nil => rfl
  | cons a actions ih =>
      obtain ⟨ok, rest⟩ := run?_cons_eq_some_iff.mp ran
      rw [taken_steps_cons, takenBy_of_swept ok behind, ih rest (swept_perform ok behind)]
      rfl

/-! ## What the sweep of a channel takes -/

/-- A run that brings the drain behind a channel comes to the end of the sweep of that channel, and
finds it empty there. -/
theorem exists_run_untilSwept (ran : p.run? actions = some q) (before : p.swept s = false)
    (behind : q.swept s = true) :
    ∃ m back, p.run? (untilSwept s actions) = some m ∧ (m.lane s).queue = [] ∧
      actions = untilSwept s actions ++ .sweepEnd s :: back ∧
      m.run? (.sweepEnd s :: back) = some q := by
  induction actions generalizing p with
  | nil =>
      obtain rfl : p = q := by simpa [run?] using ran
      simp [before] at behind
  | cons a actions ih =>
      obtain ⟨ok, rest⟩ := run?_cons_eq_some_iff.mp ran
      cases ends : a.endsSweep s with
      | true =>
          obtain rfl : a = .sweepEnd s := by
            cases a <;> simp_all [Action.endsSweep]
          have none : untilSwept s (.sweepEnd s :: actions) = [] := by
            simp [untilSwept, Action.endsSweep]
          rw [none]
          exact ⟨p, actions, rfl, (phase_of_sweepEnd ok).2, rfl, ran⟩
      | false =>
          have more : untilSwept s (a :: actions) = a :: untilSwept s actions := by
            simp [untilSwept, ends]
          obtain ⟨m, back, reached, empty, split, onward⟩ :=
            ih rest (swept_perform_of_other ok ends before)
          rw [more]
          refine ⟨m, back, run?_cons_eq_some_iff.mpr ⟨ok, reached⟩, empty, ?_, onward⟩
          rw [List.cons_append, ← split]

/-- **The sweep of a channel takes what is in it, and every line that comes late.** -/
theorem taken_of_sweep (ran : p.run? actions = some q) (before : p.swept s = false)
    (behind : q.swept s = true) :
    (p.lane s).taken (steps s actions) = (p.lane s).queue ++ p.lateLines s actions := by
  obtain ⟨m, back, reached, empty, split, onward⟩ := exists_run_untilSwept ran before behind
  obtain ⟨ok, rest⟩ := run?_cons_eq_some_iff.mp onward
  have books := Lane.queue_append_sent (lane_run s reached)
  rw [empty, List.append_nil] at books
  have cut : (p.lane s).taken (steps s actions) =
      (p.lane s).taken (steps s (untilSwept s actions)) ++
        (m.lane s).taken (steps s (.sweepEnd s :: back)) := by
    rw [← Lane.taken_append (lane_run s reached), ← steps_append, ← split]
  have nothing : (m.lane s).taken (steps s (.sweepEnd s :: back)) = [] := by
    have gone : (m.perform (.sweepEnd s)).swept s = true := by
      cases s <;> simp [swept, perform, Phase.afterSweep]
    rw [taken_steps_cons, taken_of_swept rest gone]
    rfl
  rw [cut, nothing, List.append_nil, lateLines, books]

end Pipeline

end Overseer.Capture
