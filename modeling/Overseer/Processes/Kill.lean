import Overseer.Os.Error
import Overseer.Processes.Error

/-!
# The kill primitives

The system call that sends a signal reads its first argument in four ways: a positive number is a
process, `0` the group of the caller, `-1` every process, and any other negative number the group
with the opposite number.  The primitives here never build an argument that means anything but the
one process or the one group that they were asked for.

## Main definitions

* `Addressee`, `Addressee.ofArgument` — whom an argument of the system call stands for
* `killArgument?`, `killGroupArgument?` — the arguments for one process and one group
* `forceKill`, `forceKillGroup` — killing through a given system call
-/

namespace Overseer.Processes

open Overseer.Os

/-- Whom an argument of the system call `kill` stands for. -/
inductive Addressee where
  /-- the process with this number -/
  | process (pid : Nat)
  /-- the group of the caller -/
  | ownGroup
  /-- every process -/
  | everyone
  /-- the group with this number -/
  | group (pgid : Nat)
  deriving DecidableEq, Repr

/-- Whom an argument of the system call `kill` stands for. -/
def Addressee.ofArgument (n : Int) : Addressee :=
  if 0 < n then .process n.toNat
  else if n = 0 then .ownGroup
  else if n = -1 then .everyone
  else .group n.natAbs

/-- The largest process number of the system. -/
def maxPid : Nat := 2147483647

/-- A pid that the system call can take for one process: positive, and inside its signed 32 bits. -/
def checkedPid? (pid : Pid) : Option Int :=
  if 0 < pid.toNat ∧ pid.toNat ≤ maxPid then some pid.toNat else none

theorem checkedPid?_eq_some_iff {pid : Pid} {n : Int} :
    checkedPid? pid = some n ↔ 0 < pid.toNat ∧ pid.toNat ≤ maxPid ∧ (pid.toNat : Int) = n := by
  rw [checkedPid?]
  split
  · next valid =>
    rw [Option.some.injEq]
    exact ⟨fun same => ⟨valid.1, valid.2, same⟩, fun same => same.2.2⟩
  · next invalid =>
    exact ⟨nofun, fun same => absurd ⟨same.1, same.2.1⟩ invalid⟩

/-- The argument that addresses one process. -/
def killArgument? (pid : Pid) : Option Int := checkedPid? pid

/-- The argument that addresses one group. -/
def killGroupArgument? (pgid : Pid) : Option Int := (checkedPid? pgid).map (- ·)

/-- What a failed system call says about the process asked for. -/
def killError (pid : Pid) : Errno → ReaperError
  | .noProcess => .notFound pid
  | .notPermitted => .permissionDenied pid
  | e => .killFailed pid (OsError.ofErrno e).message

section

variable {σ : Type}

/-- Sends the killing signal through `kill`, unless there is no argument for the process. -/
def sendKill (kill : Int → StateM σ (Except Errno Unit)) (pid : Pid) (argument : Option Int) :
    StateM σ (Except ReaperError Unit) :=
  match argument with
  | none => pure (.error (.notFound pid))
  | some target => do
    match ← kill target with
    | .ok () => pure (.ok ())
    | .error e => pure (.error (killError pid e))

/-- Kills one process through the given system call. -/
def forceKill (kill : Int → StateM σ (Except Errno Unit)) (pid : Pid) :
    StateM σ (Except ReaperError Unit) :=
  sendKill kill pid (killArgument? pid)

/-- Kills every member of one process group through the given system call. -/
def forceKillGroup (kill : Int → StateM σ (Except Errno Unit)) (pgid : Pid) :
    StateM σ (Except ReaperError Unit) :=
  sendKill kill pgid (killGroupArgument? pgid)

end

end Overseer.Processes
