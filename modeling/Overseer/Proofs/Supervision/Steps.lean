import Overseer.Proofs.Supervision.Programs
import Overseer.Supervision.Execute

/-!
# The steps of a supervision

A supervision that has not finished looks at the clock and does one of three things: one of its parties takes
a step that nobody else notices, or one that reaches the child or the capture, or none of them has anything to
do and it waits for news.
-/

namespace Overseer

open Overseer.Capture Overseer.Os Overseer.Processes

variable {σ : Type} {platform : Platform σ} {child : Pid} {n : Nat}
variable {s : Supervision} {state : σ} {event : Event}

theorem Supervision.finished_eq_false_of_capture (open_ : s.capture.finished = false) :
    s.finished = false := by
  simp [finished, open_]

theorem Supervision.finished_eq_false_of_control (undrained : s.control.drainUntil = none) :
    s.finished = false := by
  simp [finished, undrained]

/-- A supervision that has finished does not go on. -/
theorem superviseFor_of_finished (done : s.finished = true) :
    superviseFor platform child n s = pure s := by
  cases n with
  | zero => rfl
  | succ n => rw [superviseFor, if_pos done]

/-- A step that has no effect outside the parties. -/
theorem run_superviseFor_of_silent (open_ : s.finished = false)
    (next : s.control.next? (platform.clock.run state).1 = some event)
    (still : s.control.effect? event = none) :
    (superviseFor platform child (n + 1) s).run state =
      (superviseFor platform child n
        { s with control := s.control.perform (platform.clock.run state).1 event }).run
          (platform.clock.run state).2 := by
  rw [superviseFor, if_neg (by simp [open_]), run_bind, next]
  dsimp only
  rw [still]

/-- A step with an effect. -/
theorem run_superviseFor_of_effect {effect : Effect} (open_ : s.finished = false)
    (next : s.control.next? (platform.clock.run state).1 = some event)
    (does : s.control.effect? event = some effect) :
    let done := (effect.run platform child s.capture).run (platform.clock.run state).2
    (superviseFor platform child (n + 1) s).run state =
      (superviseFor platform child n
        ⟨s.control.perform (platform.clock.run state).1 event, done.1⟩).run done.2 := by
  rw [superviseFor, if_neg (by simp [open_]), run_bind, next]
  dsimp only
  rw [does]
  exact run_bind _ _ _

/-- When no party has anything to do, a supervision goes on with what the wait has brought. -/
theorem run_superviseFor_of_idle {news : News} {after : σ} (open_ : s.finished = false)
    (idle : s.control.next? (platform.clock.run state).1 = none)
    (waited : (platform.await child s.control.wakeAt).run (platform.clock.run state).2 = (news, after)) :
    let received := (s.receive platform child news).run after
    (superviseFor platform child (n + 1) s).run state =
      (superviseFor platform child n received.1).run received.2 := by
  rw [superviseFor, if_neg (by simp [open_]), run_bind, idle]
  dsimp only
  rw [run_bind, waited]
  exact run_bind _ _ _

end Overseer
