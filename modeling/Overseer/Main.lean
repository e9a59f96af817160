import Overseer.Agent.Hosted
import Overseer.Agent.Program

/-!
# The command line of the agent

The agent takes its settings from the environment and from the file `.env` of the working directory,
runs on a fresh machine and writes its log.  It is stopped when as many seconds have passed on that
machine as its argument says, one second without an argument, or when a process of the machine interrupts
it.

## Main definitions

* `agentReport` — a run of the agent with given settings
* `main` — the command
-/

namespace Overseer.Agent

open Overseer.Host

/-- The variables that the agent looks at: its settings, and what its log is to hold. -/
def observedVariables : List String :=
  [Setting.shell, .interpreter, .timeout, .interval, .reap].map (·.variableName) ++
    [directivesVariable]

/-- What the agent reports when it is stopped after so many seconds on a fresh machine. -/
def agentReport (environment : Environment) (settings : Option String) (seconds : Nat) :
    AgentReport :=
  let run := runOnHost fun w => interrupted w || decide (seconds * 1000000000 ≤ w.2.clock)
  let host := withVariables (fullEnvironment environment settings) machine
  ((runProgramWith environment settings run).run host).1

/-- The variables of the process that the agent looks at. -/
def readEnvironment : IO Environment :=
  observedVariables.filterMapM fun name => do
    let value ← IO.getEnv name
    return value.map (name, ·)

/-- The text of the file of settings, if there is one. -/
def readSettings : IO (Option String) := do
  try return some (← IO.FS.readFile ".env") catch _ => return none

end Overseer.Agent

open Overseer.Agent in
/-- Runs the agent and writes its log. -/
def main (arguments : List String) : IO UInt32 := do
  let seconds := (arguments.head?.bind String.toNat?).getD 1
  let report := agentReport (← readEnvironment) (← readSettings) seconds
  report.lines.forM IO.println
  return UInt32.ofNat report.exitCode
