import Overseer.Processes.Reaper

/-!
# Process tables in memory

A list of records, possibly with a pid in several of them, and pids whose kills fail in a fixed way.
A kill that does not fail removes every record with its pid, and succeeds even if there is none.

## Main definitions

* `MemoryTable` — records, fixed outcomes, and the kills attempted so far
* `MemoryTable.table` — the process table that it is
-/

namespace Overseer.Processes

/-- A process table in memory. -/
structure MemoryTable where
  /-- the processes -/
  records : List ProcessRecord := []
  /-- the errors of kills that do not succeed, the first entry of a pid deciding -/
  outcomes : List (Pid × ReaperError) := []
  /-- why the table cannot be listed, if it cannot -/
  unreadable : Option String := none
  /-- the kills attempted so far, in order -/
  attempts : List Pid := []

namespace MemoryTable

/-- The fixed error of killing a process. -/
def outcome? (t : MemoryTable) (pid : Pid) : Option ReaperError := t.outcomes.lookup pid

/-- Fixes the outcome of killing a process, or frees it. -/
def setOutcome (t : MemoryTable) (pid : Pid) (outcome : Option ReaperError) : MemoryTable :=
  let others := t.outcomes.filter (·.1 != pid)
  { t with outcomes := match outcome with
      | none => others
      | some e => (pid, e) :: others }

/-- Adds a process behind the others. -/
def add (t : MemoryTable) (record : ProcessRecord) : MemoryTable :=
  { t with records := t.records ++ [record] }

/-- Removes every record of a pid. -/
def remove (t : MemoryTable) (pid : Pid) : MemoryTable :=
  { t with records := t.records.filter (·.pid != pid) }

/-- Lists the records. -/
def snapshot (t : MemoryTable) : Except ReaperError (List ProcessRecord) × MemoryTable :=
  match t.unreadable with
  | some reason => (.error (.enumeration reason), t)
  | none => (.ok t.records, t)

/-- Kills a process, and notes the attempt. -/
def kill (pid : Pid) (t : MemoryTable) : Except ReaperError Unit × MemoryTable :=
  let t := { t with attempts := t.attempts ++ [pid] }
  match t.outcome? pid with
  | some e => (.error e, t)
  | none => (.ok (), t.remove pid)

/-- Tables in memory as process tables. -/
def table : ProcessTable MemoryTable := ⟨snapshot, kill⟩

end MemoryTable

end Overseer.Processes
