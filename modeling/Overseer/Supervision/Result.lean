import Overseer.Json.Value
import Overseer.Time.Timestamp

/-!
# Results of supervised commands

## Main definitions

* `ExecStatus` — how a supervised process ended
* `ExecutionResult` — the status together with the captured output
* `ExecutionResult.isSuccess` — the process ended by itself, in time and with code 0
* `ExecutionResult.toJson` — the result as a JSON value, one field for each field here and in the
  same order
-/

namespace Overseer

open Overseer.Json Overseer.Time

/-- How a supervised process ended. -/
structure ExecStatus where
  /-- the process id, missing if the process was gone before it could be read -/
  pid : Option UInt32
  /-- the exit code, missing when a signal ended the process -/
  exitCode : Option Int32
  /-- the signal that ended the process -/
  signal : Option Int32
  /-- the process ended by itself, with an exit code -/
  complete : Bool
  /-- the deadline passed and the process was killed -/
  timedOut : Bool
  /-- when the process was started -/
  startedAt : Timestamp
  /-- how long the run took, in milliseconds -/
  runtimeMs : UInt64
  deriving DecidableEq

/-- The status of a supervised command and its cleaned output. -/
structure ExecutionResult where
  /-- how the process ended -/
  status : ExecStatus
  /-- what it wrote to its standard output -/
  stdout : String
  /-- what it wrote to its standard error output -/
  stderr : String
  deriving DecidableEq

namespace ExecStatus

/-- The fields of a status as JSON. -/
def toJson (s : ExecStatus) : Value := .object [
  ("pid", .ofOption (fun n => .integer n.toNat) s.pid),
  ("exit_code", .ofOption (fun n => .integer n.toInt) s.exitCode),
  ("signal", .ofOption (fun n => .integer n.toInt) s.signal),
  ("complete", .bool s.complete),
  ("timed_out", .bool s.timedOut),
  ("started_at", .string s.startedAt.format),
  ("runtime_ms", .integer s.runtimeMs.toNat)]

end ExecStatus

namespace ExecutionResult

/-- The process ended by itself, in time and with code 0. -/
def isSuccess (r : ExecutionResult) : Bool :=
  r.status.complete && !r.status.timedOut && r.status.exitCode == some 0

/-- The result as JSON. -/
def toJson (r : ExecutionResult) : Value := .object [
  ("status", r.status.toJson), ("stdout", .string r.stdout), ("stderr", .string r.stderr)]

end ExecutionResult

end Overseer
