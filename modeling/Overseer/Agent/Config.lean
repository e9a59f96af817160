import Overseer.Command.Spec
import Overseer.Script.Runner
import Overseer.Text.Blank
import Overseer.Text.Quoted
import Overseer.Text.Unsigned

/-!
# Settings of the agent

The agent is set up by five variables.  A variable that is missing or blank leaves its setting at
the default; the two that give a time must otherwise hold a positive whole number of seconds.

## Main definitions

* `Setting` — the five variables
* `AgentConfig` — the settings
* `AgentConfig.ofLookup` — the settings that variables give
* `AgentConfig.command` — a command under these settings
* `AgentConfig.scriptRunner` — a runner of scripts under these settings
-/

namespace Overseer.Agent

open Overseer.Script Overseer.Text Overseer.Time

/-- The variables that set up the agent. -/
inductive Setting where
  | shell | interpreter | timeout | interval | reap
  deriving DecidableEq, Repr

/-- The name of a variable. -/
def Setting.variableName : Setting → String
  | shell => "HOSTEXEC_SHELL"
  | interpreter => "HOSTEXEC_PYTHON"
  | timeout => "HOSTEXEC_TIMEOUT_SECS"
  | interval => "METRICS_INTERVAL_SECS"
  | reap => "REAP_ON_START"

/-- What is wrong with a time. -/
inductive TimeFault where
  | zero | notANumber
  deriving DecidableEq, Repr

/-- What is wrong with a time, in words. -/
def TimeFault.reason : TimeFault → String
  | zero => "must be greater than zero"
  | notANumber => "must be a whole number of seconds"

/-- A variable holds something that cannot be used. -/
structure ConfigError where
  /-- the variable -/
  setting : Setting
  /-- what it holds, untrimmed -/
  value : String
  /-- what is wrong with that -/
  fault : TimeFault
  deriving DecidableEq, Repr

/-- The text of the error. -/
def ConfigError.message (e : ConfigError) : String :=
  e.setting.variableName ++ "=" ++ quote e.value ++ " is invalid: " ++ e.fault.reason

/-- The time between two load samples unless another one is given. -/
def defaultInterval : Duration := .ofSecs 60

/-- The settings of the agent. -/
structure AgentConfig where
  /-- the shell for plain commands -/
  shell : OsText := .ofString defaultShell
  /-- the interpreter for scripts -/
  interpreter : OsText := .ofString defaultInterpreter
  /-- the time that a command has -/
  timeout : Duration := defaultTimeout
  /-- the time between two load samples -/
  interval : Duration := defaultInterval
  /-- a pattern of process names to sweep at the start -/
  reapOnStart : Option String := none
  deriving DecidableEq, Inhabited

/-- A positive number of seconds. -/
def parseSecs (setting : Setting) (value : String) : Except ConfigError Duration :=
  match unsigned? secondsBound (trim value) with
  | none => .error ⟨setting, value, .notANumber⟩
  | some 0 => .error ⟨setting, value, .zero⟩
  | some n => .ok (.ofSecs (UInt64.ofNat n))

namespace AgentConfig

/-- What a variable holds, unless it is missing or blank. -/
def given? (lookup : String → Option String) (setting : Setting) : Option String :=
  (lookup setting.variableName).filter fun value => !decide (Blank value)

/-- The time that a variable gives, or the default. -/
def timeOf (lookup : String → Option String) (setting : Setting) (default : Duration) :
    Except ConfigError Duration :=
  match given? lookup setting with
  | some value => parseSecs setting value
  | none => .ok default

/-- The settings that variables give. -/
def ofLookup (lookup : String → Option String) : Except ConfigError AgentConfig := do
  let timeout ← timeOf lookup .timeout defaultTimeout
  let interval ← timeOf lookup .interval defaultInterval
  return {
    shell := .ofString ((given? lookup .shell).getD defaultShell)
    interpreter := .ofString ((given? lookup .interpreter).getD defaultInterpreter)
    timeout, interval
    reapOnStart := (given? lookup .reap).map trim }

/-- A command line under these settings. -/
def command (config : AgentConfig) (text : String) : CommandSpec :=
  { CommandSpec.ofShell text with shell := config.shell, timeout := config.timeout }

/-- The runner of scripts under these settings. -/
def scriptRunner (config : AgentConfig) : ScriptRunner := { interpreter := config.interpreter }

end AgentConfig

end Overseer.Agent
