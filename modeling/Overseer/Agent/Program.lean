import Overseer.Agent.Dotenv
import Overseer.Agent.Log

/-!
# The agent as a program

The agent reads its settings from the environment, and from a file of settings if there is one.
With invalid settings it ends at once; otherwise it runs until it is told to stop.  All that it
writes is its log.

## Main definitions

* `AgentReport` — how the agent ended and what it wrote
* `runProgramWith` — the whole program
-/

namespace Overseer.Agent

/-- How the agent ended and what it wrote. -/
structure AgentReport where
  /-- the exit code -/
  exitCode : Nat
  /-- the lines of the log, without their times -/
  lines : List String
  deriving DecidableEq, Repr

/-- The environment of the agent: that of its process, and the file of settings. -/
def fullEnvironment (env : Environment) (settings : Option String) : Environment :=
  match settings with
  | some text => loadSettings env text
  | none => env

/-- The lines of a log that are written. -/
def written (directives : List Directive) (lines : List LogLine) : List String :=
  (lines.filter (passes directives)).map (·.text)

/-- Runs the agent in an environment.  `run` is the run with given settings. -/
def runProgramWith {σ : Type} (env : Environment) (settings : Option String)
    (run : AgentConfig → StateM σ (List Deed)) : StateM σ AgentReport := do
  let env := fullEnvironment env settings
  let directives := directivesOf fun name => env.lookup name
  match AgentConfig.ofLookup fun name => env.lookup name with
  | .error e => pure ⟨1, written directives [invalidLine e]⟩
  | .ok config =>
    let deeds ← run config
    pure ⟨0, written directives (startLine config :: deeds.map (·.logLine))⟩

end Overseer.Agent
