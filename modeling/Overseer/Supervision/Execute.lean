import Overseer.Capture.Pipeline
import Overseer.Processes.Kill
import Overseer.Supervision.Control
import Overseer.Supervision.Result

/-!
# Running a command under supervision

A command is checked, started, supervised and reported on.  Only a command without time to run and a
program that cannot be started are errors; every other end is a result.

The deadline of the last resort is the time-out plus a grace time.  That sum has to be a duration: a
time-out so long that it is none breaks the run off, when the child has already been started.

## Main definitions

* `Supervised` — what the supervision of a child has seen
* `superviseFor` — supervises a child for a number of steps
* `report` — the result that follows from what was seen
* `Execution`, `execute` — the whole run, `executeFor` with a bound on its steps
-/

namespace Overseer

open Overseer.Capture Overseer.Os Overseer.Processes Overseer.Time

/-- A supervision in progress: the parties, and the capture of the output. -/
structure Supervision where
  /-- waiter and watchdog -/
  control : Control
  /-- readers and drain -/
  capture : Pipeline := {}

namespace Supervision

/-- The watchdog has answered and the capture has ended. -/
def finished (s : Supervision) : Bool :=
  s.control.drainUntil.isSome && s.capture.finished

end Supervision

/-- What the supervision of a child has seen. -/
structure Supervised where
  /-- the outcome of collecting the child -/
  outcome : Except OsError ExitStatus
  /-- the deadline passed and a kill was issued -/
  timedOut : Bool
  /-- the cleaned standard output -/
  stdout : String
  /-- the cleaned standard error output -/
  stderr : String

section

variable {σ : Type}

/-- What an effect does on a platform. -/
def Effect.run (platform : Platform σ) (child : Pid) (capture : Pipeline) :
    Effect → StateM σ Pipeline
  | .killChild => do
    let _ ← forceKill platform.kill child
    pure capture
  | .killGroup => do
    let _ ← forceKillGroup platform.kill child
    pure capture
  | .killHandle => do
    let _ ← forceKill platform.kill child
    pure capture
  | .cutCapture => pure capture.cut

/-- What news of the child do to its supervision. -/
def Supervision.receive (platform : Platform σ) (child : Pid) (s : Supervision) :
    News → StateM σ Supervision
  | .output stream bytes => pure { s with capture := s.capture.read stream bytes }
  | .ended stream => pure { s with capture := s.capture.readEnd stream }
  | .exited => do
    let now ← platform.clock
    let outcome ← platform.collect child
    let control := (s.control.perform now .exit).perform now (.collect outcome)
    pure { s with control }
  | .quiet => pure s

/-- Supervises a child for at most the given number of steps. -/
def superviseFor (platform : Platform σ) (child : Pid) :
    Nat → Supervision → StateM σ Supervision
  | 0, s => pure s
  | n + 1, s =>
    if s.finished then pure s else do
      let now ← platform.clock
      match s.control.next? now with
      | some event =>
        let control := s.control.perform now event
        match s.control.effect? event with
        | none => superviseFor platform child n { s with control }
        | some effect =>
          let capture ← effect.run platform child s.capture
          superviseFor platform child n { control, capture }
      | none =>
        let news ← platform.await child s.control.wakeAt
        let s ← s.receive platform child news
        superviseFor platform child n s

/-- What a supervision has seen; a child that was never collected counts as lost. -/
def Supervision.seen (s : Supervision) : Supervised where
  outcome := s.control.outcome?.getD (.error (.ofErrno .noChild))
  timedOut := s.control.timedOut
  stdout := s.capture.text .stdout
  stderr := s.capture.text .stderr

/-- The result that follows from what was seen. -/
def report (child : Pid) (startedAt : Timestamp) (runtimeMs : UInt64) (seen : Supervised) :
    ExecutionResult :=
  let ended := seen.outcome.toOption
  let exitCode := ended.bind (·.code?)
  { status := {
      pid := some child, exitCode, signal := ended.bind (·.signal?)
      complete := exitCode.isSome, timedOut := seen.timedOut, startedAt, runtimeMs }
    stdout := seen.stdout, stderr := seen.stderr }

/-- How a call to run a command ends. -/
inductive Execution where
  /-- the command did not run -/
  | refused (error : ExecError)
  /-- the command ran -/
  | finished (result : ExecutionResult)
  /-- the call broke off with the child running: the last resort has no representable deadline -/
  | brokeOff
  deriving DecidableEq

/-- The milliseconds in a number of nanoseconds. -/
def milliseconds (nanoseconds : Nat) : Nat := nanoseconds / nanosPerMilli

/-- A supervision takes so many steps at most.  The parties take a handful of steps of their own,
and every other step takes in what was written or ends a wait, so the bound is far beyond what a
child can cause before the last resort. -/
def stepBound : Nat := 1099511627776

/-- The launch that a command asks for. -/
def CommandSpec.toLaunch (spec : CommandSpec) : Launch where
  program := spec.shell
  arguments := spec.arguments.map .ofString
  ownGroup := spec.detached

/-- Supervises a child that has just been started, for at most so many steps, and lets it go.  The
deadlines are counted from now on. -/
def supervise (platform : Platform σ) (spec : CommandSpec) (steps : Nat) (child : Pid)
    (lastResort : Duration) : StateM σ Supervised := do
  let begun ← platform.clock
  let control : Control := {
    deadline := begun + spec.timeout.nanoseconds
    lastResort := begun + lastResort.nanoseconds
    detached := spec.detached }
  let s ← superviseFor platform child steps { control }
  platform.release child
  pure s.seen

/-- Runs a command to its end or to its deadline, whichever comes first, with a supervision of at most
so many steps.  The running time that is reported begins before the launch. -/
def executeFor (steps : Nat) (platform : Platform σ) (spec : CommandSpec) : StateM σ Execution := do
  match spec.validate with
  | .error e => pure (.refused e)
  | .ok () =>
    let startedAt ← platform.timeOfDay
    let start ← platform.clock
    match ← platform.launch spec.toLaunch with
    | .error cause => pure (.refused (.launch spec.program cause))
    | .ok child =>
      match spec.timeout.add? killGrace with
      | none => pure .brokeOff
      | some lastResort =>
        let seen ← supervise platform spec steps child lastResort
        let stop ← platform.clock
        let runtimeMs := UInt64.ofNat (milliseconds (stop - start))
        pure (.finished (report child startedAt runtimeMs seen))

/-- Runs a command to its end or to its deadline, whichever comes first. -/
def execute (platform : Platform σ) (spec : CommandSpec) : StateM σ Execution :=
  executeFor stepBound platform spec

end

end Overseer
