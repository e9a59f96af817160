import Overseer.Agent.Config
import Overseer.Load.Sampler
import Overseer.Processes.Reaper

/-!
# The main loop of the agent

The agent may sweep a family of processes when it starts.  Then it samples the processor load at the
ticks of a clock until it is told to stop.  A request to stop is looked at between samples only, and
before the tick: a sample that has begun goes on to its end, and no sample begins when a stop has
been requested, even if its tick is due.

The clock ticks first at once and then at fixed distances from its start.  Ticks that a slow sample
has missed are made up for without delay.

## Main definitions

* `Surroundings` — what the agent asks of the world around it
* `Deed` — what the agent does, for its log
* `Ticker` — when the next tick is due
* `runFor` — the loop, for a number of rounds
* `runAgent` — the whole run
-/

namespace Overseer.Agent

open Overseer.Load Overseer.Processes

/-- What the agent asks of the world around it, over a state of type `σ`. -/
structure Surroundings (σ : Type) where
  /-- the time since the clock was started, in nanoseconds -/
  clock : StateM σ Nat
  /-- whether a stop has been requested -/
  stopRequested : StateM σ Bool
  /-- waits for a request to stop, at most until the given time -/
  waitUntil : Nat → StateM σ Unit
  /-- sweeps the processes by a name pattern; the failures of single kills -/
  sweep : String → StateM σ (List ReaperError)
  /-- measures the load -/
  sample : StateM σ Nat

/-- What the agent does. -/
inductive Deed where
  /-- it is about to sweep by a name pattern -/
  | sweeping (pattern : String)
  /-- a process has survived the sweep -/
  | survived (pattern : String) (failure : ReaperError)
  /-- it has begun a sample at a time, and got a load -/
  | sampled (start : Nat) (load : Nat)
  /-- it has stopped -/
  | stopped
  deriving DecidableEq, Repr

/-- The ticks of the agent's clock. -/
structure Ticker where
  /-- when the next tick is due -/
  due : Nat
  /-- the distance of two ticks -/
  period : Nat
  deriving DecidableEq, Repr

namespace Ticker

/-- A clock that ticks first at the given time. -/
def startAt (now period : Nat) : Ticker := ⟨now, period⟩

/-- The clock behind a tick. -/
def tick (t : Ticker) : Ticker := { t with due := t.due + t.period }

end Ticker

section

variable {σ : Type}

/-- Sweeps the processes by a name pattern. -/
def sweepDeeds (world : Surroundings σ) (pattern : String) : StateM σ (List Deed) := do
  let failures ← world.sweep pattern
  pure (.sweeping pattern :: failures.map (.survived pattern))

/-- The loop of the agent for at most the given number of rounds. -/
def runFor (world : Surroundings σ) : Nat → Ticker → StateM σ (List Deed)
  | 0, _ => pure []
  | rounds + 1, ticker => do
    if ← world.stopRequested then pure [.stopped]
    else
      let now ← world.clock
      if ticker.due ≤ now then
        let load ← world.sample
        let later ← runFor world rounds ticker.tick
        pure (.sampled now load :: later)
      else
        world.waitUntil ticker.due
        runFor world rounds ticker

/-- The whole run of the agent: the sweep at the start, if there is to be one, and the loop. -/
def runAgent (world : Surroundings σ) (config : AgentConfig) (rounds : Nat) :
    StateM σ (List Deed) := do
  let swept ← match config.reapOnStart with
    | some pattern => sweepDeeds world pattern
    | none => pure []
  let now ← world.clock
  let loop ← runFor world rounds (.startAt now config.interval.nanoseconds)
  pure (swept ++ loop)

end

end Overseer.Agent
