import Overseer.Capture.Buffer
import Overseer.Processes.Kill
import Overseer.Script.Error
import Overseer.Supervision.Platform
import Overseer.Time.Duration

/-!
# Running a program and collecting its output

The whole run of a program has one deadline: the end of the child, and the end of what can be read
of both its streams.  A stream ends for the reader when the bound on the output is reached, too;
writing to it fails from then on.  When the deadline passes first, the whole process group of the
child is killed, no matter whether the child itself has ended, and nothing of the output is kept.

## Main definitions

* `Collection` — how much of the run has been seen
* `collectFor` — watches a child for a number of steps
* `CapturedOutput`, `runProgram` — the whole run
-/

namespace Overseer.Script

open Overseer.Capture Overseer.Os Overseer.Processes Overseer.Text Overseer.Time

/-- What a reader has of a stream. -/
structure StreamCapture where
  /-- the bytes read -/
  bytes : ByteArray := .empty
  /-- nothing more is read -/
  ended : Bool := false
  deriving Inhabited

namespace StreamCapture

/-- Reads bytes, up to the bound. -/
def read (c : StreamCapture) (bytes : ByteArray) : StreamCapture :=
  if c.ended then c
  else
    let bytes := appendBytes c.bytes bytes
    { bytes, ended := isFull bytes }

/-- Sees the end of the stream. -/
def close (c : StreamCapture) : StreamCapture := { c with ended := true }

end StreamCapture

/-- How much of a run has been seen. -/
structure Collection where
  /-- the outcome of collecting the child, once there is one -/
  outcome : Option (Except OsError ExitStatus) := none
  /-- the standard output -/
  stdout : StreamCapture := {}
  /-- the standard error output -/
  stderr : StreamCapture := {}
  /-- the deadline passed first -/
  expired : Bool := false
  deriving Inhabited

namespace Collection

/-- Changes what a reader has. -/
def update (stream : Stream) (f : StreamCapture → StreamCapture) (c : Collection) : Collection :=
  match stream with
  | .stdout => { c with stdout := f c.stdout }
  | .stderr => { c with stderr := f c.stderr }

/-- What the reader of a stream has. -/
def stream (c : Collection) : Stream → StreamCapture
  | .stdout => c.stdout
  | .stderr => c.stderr

/-- Nothing of the run is waited for any more.  A child that cannot be collected ends the run at
once. -/
def complete (c : Collection) : Bool :=
  match c.outcome with
  | none => false
  | some (.error _) => true
  | some (.ok _) => c.stdout.ended && c.stderr.ended

/-- The run is over. -/
def finished (c : Collection) : Bool := c.expired || c.complete

end Collection

/-- What a program wrote, and how it ended. -/
structure CapturedOutput where
  /-- the decoded standard output -/
  stdout : String
  /-- the decoded standard error output -/
  stderr : String
  /-- the exit code, `-1` if a signal ended the program -/
  exitCode : Int
  deriving DecidableEq, Repr

section

variable {σ : Type}

/-- What news of a child do to the collection. -/
def Collection.receive (platform : Platform σ) (child : Pid) (c : Collection) :
    News → StateM σ Collection
  | .output stream bytes => do
    let c := c.update stream (·.read bytes)
    if (c.stream stream).ended then platform.hangUp child stream
    pure c
  | .ended stream => pure (c.update stream (·.close))
  | .exited => do
    let outcome ← platform.collect child
    pure { c with outcome := some outcome }
  | .quiet => pure c

/-- Watches a child for at most the given number of steps, up to a deadline. -/
def collectFor (platform : Platform σ) (child : Pid) (deadline : Nat) :
    Nat → Collection → StateM σ Collection
  | 0, c => pure c
  | n + 1, c =>
    if c.finished then pure c else do
      let now ← platform.clock
      if deadline ≤ now then
        let _ ← forceKillGroup platform.kill child
        pure { c with expired := true }
      else
        let news ← platform.await child (some deadline)
        let c ← c.receive platform child news
        collectFor platform child deadline n c

/-- The exit code that stands for how a program ended. -/
def exitCodeOf : ExitStatus → Int
  | .code n => n.toInt
  | .signal _ => -1

/-- What a watched run amounts to, when it took the given time.  Nothing is made of a run that is not
complete. -/
def Collection.conclude (c : Collection) (elapsedMs : Nat) : Except ScriptError CapturedOutput :=
  if !c.complete then .error (.timeout elapsedMs)
  else match c.outcome with
    | none => .error (.timeout elapsedMs)
    | some (.error cause) => .error (.io cause)
    | some (.ok status) => .ok {
        stdout := decode c.stdout.bytes, stderr := decode c.stderr.bytes
        exitCode := exitCodeOf status }

/-- Watching a child takes so many steps at most.  Every step takes in what was written or ends a
wait, so the bound is far beyond what a child can cause before the deadline. -/
def collectBound : Nat := 1099511627776

/-- Runs a program to the end of its run or to the deadline, whichever comes first.  The time of the run
begins before the launch, the time up to the deadline behind it. -/
def runProgram (platform : Platform σ) (program : OsText) (arguments : List OsText)
    (timeout : Duration) : StateM σ (Except ScriptError CapturedOutput) := do
  let start ← platform.clock
  match ← platform.launch { program, arguments, ownGroup := true } with
  | .error cause => pure (.error (.ofLaunch program.display cause))
  | .ok child =>
    let begun ← platform.clock
    let c ← collectFor platform child (begun + timeout.nanoseconds) collectBound {}
    platform.release child
    let stop ← platform.clock
    pure (c.conclude ((stop - start) / nanosPerMilli))

end

end Overseer.Script
