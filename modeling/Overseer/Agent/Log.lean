import Overseer.Agent.Daemon
import Overseer.Text.Decimal

/-!
# The log of the agent

A log line has a level, the part of the agent that wrote it, a message, and fields with
values.  Which lines are written is set by *directives*: each of them gives a level to all parts
whose names begin in a certain way, and the longest beginning decides.

## Main definitions

* `Level`, `LogLine`, `LogLine.text` — log lines
* `Directive`, `parseDirectives` — which lines are written
* `passes` — whether a line is written
* `Deed.logLine` — the log line of a deed
-/

namespace Overseer.Agent

open Overseer.Text

/-- How loud a line is. -/
inductive Level where
  | error | warn | info | debug | trace
  deriving DecidableEq, Repr, Inhabited

namespace Level

/-- How many levels are as loud or louder. -/
def rank : Level → Nat
  | error => 1 | warn => 2 | info => 3 | debug => 4 | trace => 5

/-- The name of a level. -/
def name : Level → String
  | error => "ERROR" | warn => "WARN" | info => "INFO" | debug => "DEBUG" | trace => "TRACE"

end Level

/-- A line of the log. -/
structure LogLine where
  /-- how loud it is -/
  level : Level
  /-- the part of the agent that wrote it -/
  part : String
  /-- the message -/
  message : String
  /-- fields and their values -/
  fields : List (String × String) := []
  deriving DecidableEq, Repr, Inhabited

/-- A line as it is written, without its time. -/
def LogLine.text (l : LogLine) : String :=
  l.level.name ++ " " ++ l.part ++ ": " ++ l.message ++
    String.join (l.fields.map fun (name, value) => " " ++ name ++ "=" ++ value)

/-! ## Directives -/

/-- Gives a level to all parts whose names begin in a certain way. -/
structure Directive where
  /-- how the names begin -/
  stem : String := ""
  /-- so many levels are written, the loudest first -/
  rank : Nat
  deriving DecidableEq, Repr, Inhabited

/-- The number of levels that the name of a level stands for, or the number itself. -/
def parseRank (s : String) : Option Nat :=
  match String.ofList (s.toList.map Char.toLower) with
  | "off" | "0" => some 0
  | "error" | "1" => some 1
  | "warn" | "2" => some 2
  | "info" | "3" => some 3
  | "debug" | "4" => some 4
  | "trace" | "5" => some 5
  | _ => none

/-- A character of a part's name. -/
def isPartChar (c : Char) : Bool := c.isAlphanum || c == '_' || c == ':' || c == '-'

/-- A directive: a level, a part, or a part with its level.  A part without a level is written
whole. -/
def parseDirective (s : String) : Option Directive :=
  match parseRank s with
  | some rank => some { rank }
  | none =>
    let stem := s.toList.takeWhile (· != '=')
    if stem.isEmpty ∨ !stem.all isPartChar then none
    else
      let part := String.ofList stem
      let part := if (parseRank part).isSome then "" else part
      match s.toList.drop stem.length with
      | [] | ['='] => some { stem := part, rank := Level.trace.rank }
      | _ :: level => (parseRank (String.ofList level)).map fun rank => { stem := part, rank }

/-- Directives separated by commas.  No directives at all write errors only. -/
def parseDirectives (s : String) : Option (List Directive) :=
  if s.isEmpty then some [{ rank := Level.error.rank }]
  else ((s.toList.splitOn ',').map String.ofList).mapM parseDirective

/-- The directives that hold unless the environment gives others. -/
def defaultDirectives : List Directive :=
  [⟨"hostexec_agent", Level.info.rank⟩, ⟨"hostexec_core", Level.info.rank⟩]

/-- The variable that holds the directives. -/
def directivesVariable : String := "RUST_LOG"

/-- The directives that hold in an environment. -/
def directivesOf (lookup : String → Option String) : List Directive :=
  ((lookup directivesVariable).bind parseDirectives).getD defaultDirectives

/-- The directive for a part: the one with the longest beginning, of several such the last. -/
def directiveFor (directives : List Directive) (part : String) : Option Directive :=
  directives.foldl (fun best d =>
    if !d.stem.toList.isPrefixOf part.toList then best
    else match best with
      | some b => if d.stem.length < b.stem.length then best else some d
      | none => some d) none

/-- Whether a line is written. -/
def passes (directives : List Directive) (line : LogLine) : Bool :=
  match directiveFor directives line.part with
  | some d => line.level.rank ≤ d.rank
  | none => false

/-! ## What the agent logs -/

/-- The agent itself. -/
def agentPart : String := "hostexec_agent"

/-- The main loop. -/
def loopPart : String := "hostexec_agent::daemon"

/-- The line of a deed. -/
def Deed.logLine : Deed → LogLine
  | sweeping pattern =>
    ⟨.info, loopPart, "Sweeping process family", [("pattern", quote pattern)]⟩
  | survived pattern failure =>
    ⟨.warn, loopPart, "Process survived sweep",
      [("pattern", quote pattern), ("error", failure.message)]⟩
  | sampled _ load => ⟨.info, loopPart, "CPU load", [("cpu_percent", naturalText load)]⟩
  | stopped => ⟨.info, loopPart, "Shutdown requested, stopping agent", []⟩

/-- A text that may be missing. -/
def quoteOption : Option String → String
  | none => "None"
  | some s => "Some(" ++ quote s ++ ")"

/-- The line of a start. -/
def startLine (config : AgentConfig) : LogLine :=
  ⟨.info, agentPart, "Starting hostexec-agent", [
    ("shell", config.shell.display), ("python", config.interpreter.display),
    ("default_timeout_secs", naturalText config.timeout.secs),
    ("metrics_interval_secs", naturalText config.interval.secs),
    ("reap_on_start", quoteOption config.reapOnStart)]⟩

/-- The line of a start that failed. -/
def invalidLine (e : ConfigError) : LogLine :=
  ⟨.error, agentPart, "Invalid configuration", [("error", e.message)]⟩

end Overseer.Agent
