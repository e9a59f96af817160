import Overseer.Agent.Daemon
import Overseer.Agent.Dotenv
import Overseer.Host.Machine

/-!
# The agent on a host

What the agent asks of the world around it, answered by a host.

## Main definitions

* `interrupted` — the agent has been asked to stop
* `withVariables` — a host on which the agent has been started with further variables
* `hostedSurroundings` — a host as the surroundings of the agent
* `runOnHost` — the whole run of the agent on a host
-/

namespace Overseer.Agent

open Overseer.Host Overseer.Load Overseer.Processes

/-- Lets time pass up to a point. -/
def passUntil (time : Nat) : StateM World Unit := fun w => ((), w.pass time)

/-- Lets a number of nanoseconds pass. -/
def pause (nanoseconds : Nat) : StateM World Unit := fun w => ((), w.pass (w.2.clock + nanoseconds))

/-- A process of the host has asked the agent to stop. -/
def interrupted (w : World) : Bool := w.2.received.contains Signal.interrupt

/-- A host whose processes start with further variables.  They hide those that have the same name. -/
def withVariables (env : Environment) (w : World) : World :=
  let texts := env.map fun (name, value) => (octetsOf (.ofString name), octetsOf (.ofString value))
  let others := w.2.environment.filter fun (name, _) => (texts.lookup name).isNone
  (w.1, { w.2 with environment := texts ++ others })

/-- A host as the surroundings of an agent.  `stop` says when a stop has been requested. -/
def hostedSurroundings (stop : World → Bool) (config : AgentConfig) : Surroundings World where
  clock := fun w => (w.2.clock, w)
  stopRequested := fun w => (stop w, w)
  waitUntil := passUntil
  sweep pattern := fun w =>
    (killByName processTable (UInt32.ofNat w.2.supervisor) pattern).run w
  sample := sampleLoad
    (usualSources {} platform config.scriptRunner (fun w => (processorReport w, w)) pause)

/-- The agent looks for a stop so many times at most, which is far beyond the samples of
a lifetime. -/
def roundBound : Nat := 1099511627776

/-- The whole run of the agent on a host. -/
def runOnHost (stop : World → Bool) (config : AgentConfig) : StateM World (List Deed) :=
  runAgent (hostedSurroundings stop config) config roundBound

end Overseer.Agent
