import Overseer.Load.Native
import Overseer.Load.Reading
import Overseer.Script.Runner

/-!
# Sampling the processor load

There are several ways to measure the load, each of which may fail.  A sampler asks them one after
another and takes the first value that it gets; when there is none, the load is reported as `0`.

## Main definitions

* `LoadSource` — one way to measure the load
* `scriptSource` — measuring by a script
* `nativeSource` — measuring by what the system counts
* `usualSources` — the sources of the agent
* `ask` — asks sources until one answers
* `sampleLoad` — the load that a list of sources gives
-/

namespace Overseer.Load

open Overseer.Host Overseer.Script Overseer.Time

/-- One way to measure the load, over a state of type `σ`. -/
structure LoadSource (σ : Type) where
  /-- a short name for the log -/
  name : String
  /-- measures the load, as a whole percentage -/
  sample : StateM σ (Except SampleError Nat)

/-- The time over which a load is averaged. -/
def sampleInterval : Duration := .ofSecs 10

/-- The deadline of the sampling script, in seconds: its interval, and time to start an
interpreter. -/
def scriptTimeoutSecs : UInt64 := 13

/-- The sampling script.  It prints the rounded load and no newline, or the failure sentinel. -/
def sampleScript : String :=
  "import psutil\n" ++
  "try:\n" ++
  "    print(int(round(psutil.cpu_percent(interval=10))), end='')\n" ++
  "except:\n" ++
  "    print(\"pyerror\", end='')\n"

section

variable {σ : Type}

/-- Measures the load by a script. -/
def scriptSource (faults : Faults) (platform : Platform (FileTree × σ)) (runner : ScriptRunner)
    (source : String) (timeoutSecs : UInt64) : LoadSource (FileTree × σ) where
  name := "script"
  sample := do
    match ← runner.run faults platform source timeoutSecs [] with
    | .error e => pure (.error (.script e))
    | .ok output => pure (parseLoad output)

/-- Measures the load by two looks at what the system counts.  `report` gives the report of the
system, and `pause` lets a number of nanoseconds pass. -/
def nativeSource (report : StateM σ String) (pause : Nat → StateM σ Unit) (interval : Duration) :
    LoadSource σ where
  name := "native"
  sample := do
    let before ← report
    pause (max interval.nanoseconds leastInterval.nanoseconds)
    let after ← report
    match ProcessorTimes.ofReport? before, ProcessorTimes.ofReport? after with
    | some a, some b => pure (percentBetween a b)
    | _, _ => pure (.error (.native "no report of the system"))

/-- The sources of the agent: the sampling script, and what the system counts. -/
def usualSources (faults : Faults) (platform : Platform (FileTree × σ)) (runner : ScriptRunner)
    (report : StateM (FileTree × σ) String) (pause : Nat → StateM (FileTree × σ) Unit) :
    List (LoadSource (FileTree × σ)) :=
  [scriptSource faults platform runner sampleScript scriptTimeoutSecs,
    nativeSource report pause sampleInterval]

/-- A source and its answer. -/
abbrev Answer := String × Except SampleError Nat

/-- Asks sources in order until one of them has a value. -/
def ask : List (LoadSource σ) → StateM σ (List Answer)
  | [] => pure []
  | source :: rest => do
    match ← source.sample with
    | .ok n => pure [(source.name, .ok n)]
    | .error e =>
      let later ← ask rest
      pure ((source.name, .error e) :: later)

/-- The load that a list of answers gives. -/
def loadOf (answers : List Answer) : Nat :=
  match answers.getLast? with
  | some (_, .ok n) => n
  | _ => 0

/-- The load that a list of sources gives. -/
def sampleLoad (sources : List (LoadSource σ)) : StateM σ Nat := do
  let answers ← ask sources
  pure (loadOf answers)

end

end Overseer.Load
