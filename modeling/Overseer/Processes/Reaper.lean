import Overseer.Processes.Error
import Overseer.Text.Lowercase

/-!
# Killing processes by number and by name

A process table is anything that can be listed and whose entries can be killed.  It may answer
differently each time: its state is a parameter.

A *sweep* lists the table once and then tries to kill every listed process whose name contains a
pattern, letter case aside, but never the caller itself.  A process that is gone before its turn is
no failure, and no failure stops the sweep.

## Main definitions

* `ProcessRecord` — one row of a process table
* `ProcessRecord.matches` — the name contains the pattern, letter case aside
* `ProcessTable` — listing and killing, over a state of any type
* `targets` — the processes that a sweep of a listing goes for
* `tryKillByName` — a sweep; an unreadable table is an error
* `killByName` — a sweep; an unreadable table has no processes
-/

namespace Overseer.Processes

open Overseer.Text

/-- One row of a process table. -/
structure ProcessRecord where
  /-- the process id -/
  pid : Pid
  /-- the name of the process -/
  name : String
  deriving DecidableEq, Repr

/-- The characters of `pattern` stand one after another somewhere in `text`. -/
def containsChars (pattern : List Char) : List Char → Bool
  | [] => pattern.isEmpty
  | c :: rest => pattern.isPrefixOf (c :: rest) || containsChars pattern rest

/-- The name contains the pattern, letter case aside: the lower case of the one is found in the
lower case of the other. -/
def ProcessRecord.matches (record : ProcessRecord) (pattern : String) : Bool :=
  containsChars (lowercase pattern).toList (lowercase record.name).toList

/-- A table of processes, over a state of type `σ`. -/
structure ProcessTable (σ : Type) where
  /-- lists the processes -/
  snapshot : StateM σ (Except ReaperError (List ProcessRecord))
  /-- kills one process -/
  kill : Pid → StateM σ (Except ReaperError Unit)

section

variable {σ : Type}

/-- Kills exactly one process. -/
def killById (table : ProcessTable σ) (pid : Pid) : StateM σ (Except ReaperError Unit) :=
  table.kill pid

/-- The processes that a sweep by `caller` goes for, in the order of the listing. -/
def targets (caller : Pid) (pattern : String) (records : List ProcessRecord) : List Pid :=
  (records.filter fun r => r.pid != caller && r.matches pattern).map (·.pid)

/-- Kills the processes one after another; the failures, but for processes that are gone. -/
def killAll (table : ProcessTable σ) : List Pid → StateM σ (List ReaperError)
  | [] => pure []
  | pid :: rest => do
    let answer ← table.kill pid
    let failures ← killAll table rest
    match answer with
    | .ok () => pure failures
    | .error e => if e.isNotFound then pure failures else pure (e :: failures)

/-- Sweeps the table by a name pattern.  The answer is the failures of single kills, or the reason
why the table could not be read. -/
def tryKillByName (table : ProcessTable σ) (caller : Pid) (pattern : String) :
    StateM σ (Except ReaperError (List ReaperError)) := do
  match ← table.snapshot with
  | .error e => pure (.error e)
  | .ok records => do
    let failures ← killAll table (targets caller pattern records)
    pure (.ok failures)

/-- Sweeps the table by a name pattern; nothing is done when the table cannot be read. -/
def killByName (table : ProcessTable σ) (caller : Pid) (pattern : String) :
    StateM σ (List ReaperError) := do
  match ← tryKillByName table caller pattern with
  | .ok failures => pure failures
  | .error _ => pure []

end

end Overseer.Processes
