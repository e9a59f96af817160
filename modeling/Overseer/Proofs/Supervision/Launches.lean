import Overseer.Proofs.Supervision.Programs
import Overseer.Supervision.Execute

/-!
# From the launch of a command to the end of the call

A call asks for the time of day and reads the clock, and then it launches the command.  The answer of the
system to that, and whether the last resort has a deadline, decide how a call with a valid command ends:
it is refused, it breaks off, or its child is supervised and reported on.
-/

namespace Overseer

open Overseer.Os Overseer.Processes Overseer.Time

variable {σ : Type} {platform : Platform σ} {spec : CommandSpec} {state : σ}
variable {child : Pid} {lastResort : Duration}

/-- What the system answers when a command is to be started. -/
def launchAnswer (platform : Platform σ) (spec : CommandSpec) : StateM σ (Except OsError Pid) := do
  let _ ← platform.timeOfDay
  let _ ← platform.clock
  platform.launch spec.toLaunch

/-- A valid command that cannot be started is refused, and nothing more is asked of the system. -/
theorem run_executeFor_of_launchAnswer_error {cause : OsError} (steps : Nat) (valid : spec.validate = .ok ())
    (answer : ((launchAnswer platform spec).run state).1 = .error cause) :
    (executeFor steps platform spec).run state =
      (.refused (.launch spec.program cause), ((launchAnswer platform spec).run state).2) := by
  rw [launchAnswer, run_bind, run_bind] at answer
  unfold executeFor
  rw [valid, run_bind, run_bind, run_bind, answer]
  rfl

/-- A valid command that has been started breaks off if there is no last resort. -/
theorem run_executeFor_of_no_lastResort (steps : Nat) (valid : spec.validate = .ok ())
    (answer : ((launchAnswer platform spec).run state).1 = .ok child)
    (none : spec.timeout.add? killGrace = none) :
    ((executeFor steps platform spec).run state).1 = .brokeOff := by
  rw [launchAnswer, run_bind, run_bind] at answer
  unfold executeFor
  rw [valid, run_bind, run_bind, run_bind, answer, none]
  rfl

/-- A valid command that has been started is supervised and reported on if there is a last resort. -/
theorem run_executeFor_of_lastResort (steps : Nat) (valid : spec.validate = .ok ())
    (answer : ((launchAnswer platform spec).run state).1 = .ok child)
    (sum : spec.timeout.add? killGrace = some lastResort) :
    let start := (platform.clock.run (platform.timeOfDay.run state).2).1
    let ended := (supervise platform spec steps child lastResort).run
      ((launchAnswer platform spec).run state).2
    let stopped := platform.clock.run ended.2
    (executeFor steps platform spec).run state =
      (.finished (report child (platform.timeOfDay.run state).1
        (UInt64.ofNat (milliseconds (stopped.1 - start))) ended.1), stopped.2) := by
  rw [launchAnswer, run_bind, run_bind] at answer
  unfold executeFor
  rw [valid, run_bind, run_bind, run_bind, answer, sum]
  dsimp only
  rw [run_bind, run_bind]
  rfl

theorem execute_of_lastResort (valid : spec.validate = .ok ())
    (answer : ((launchAnswer platform spec).run state).1 = .ok child)
    (sum : spec.timeout.add? killGrace = some lastResort) :
    ∃ result, ((execute platform spec).run state).1 = .finished result := by
  rw [execute, run_executeFor_of_lastResort _ valid answer sum]
  exact ⟨_, rfl⟩

theorem execute_eq_brokeOff_iff (valid : spec.validate = .ok ()) :
    ((execute platform spec).run state).1 = .brokeOff ↔
      spec.timeout.add? killGrace = none ∧
        ∃ child, ((launchAnswer platform spec).run state).1 = .ok child := by
  constructor
  · intro broke
    cases answer : ((launchAnswer platform spec).run state).1 with
    | error cause =>
        rw [execute, run_executeFor_of_launchAnswer_error _ valid answer] at broke
        cases broke
    | ok child =>
        cases sum : spec.timeout.add? killGrace with
        | none => exact ⟨rfl, child, rfl⟩
        | some lastResort =>
            obtain ⟨result, finished⟩ := execute_of_lastResort valid answer sum
            rw [finished] at broke
            cases broke
  · rintro ⟨none, child, answer⟩
    exact run_executeFor_of_no_lastResort _ valid answer none

end Overseer
