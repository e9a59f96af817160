import Overseer.Text.Decimal

/-!
# Errors of killing and listing processes

## Main definitions

* `ReaperError` — why a process could not be killed or the processes could not be listed
* `ReaperError.message` — its text
-/

namespace Overseer.Processes

open Overseer.Text

/-- A process id. -/
abbrev Pid := UInt32

/-- Why a process could not be killed, or the processes could not be listed. -/
inductive ReaperError where
  /-- there is no such process -/
  | notFound (pid : Pid)
  /-- the process may not be killed by the caller -/
  | permissionDenied (pid : Pid)
  /-- killing the process failed for another reason -/
  | killFailed (pid : Pid) (reason : String)
  /-- the processes could not be listed -/
  | enumeration (reason : String)
  deriving DecidableEq, Repr

namespace ReaperError

/-- The text of the error. -/
def message : ReaperError → String
  | notFound pid => "process " ++ naturalText pid.toNat ++ " not found"
  | permissionDenied pid => "permission denied killing process " ++ naturalText pid.toNat
  | killFailed pid reason =>
    "failed to kill process " ++ naturalText pid.toNat ++ ": " ++ reason
  | enumeration reason => "failed to enumerate processes: " ++ reason

/-- The process was already gone. -/
def isNotFound : ReaperError → Bool
  | notFound _ => true
  | _ => false

end ReaperError

end Overseer.Processes
