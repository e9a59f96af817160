import Overseer.Os.Error

/-!
# Errors of running scripts

## Main definitions

* `ScriptError` — why a script gave no output
* `ScriptError.message` — its text
* `ScriptError.output` — the output that goes with it
-/

namespace Overseer.Script

open Overseer.Os Overseer.Text

/-- Why a script gave no output. -/
inductive ScriptError where
  /-- it was given no time -/
  | invalidTimeout
  /-- the interpreter was not found -/
  | notFound (interpreter : String)
  /-- the interpreter may not be executed -/
  | permissionDenied (interpreter : String)
  /-- the deadline passed -/
  | timeout (elapsedMs : Nat)
  /-- the script ended with a code other than 0 -/
  | executionFailed (exitCode : Int) (stderr : String)
  /-- the script ended with code 0 but wrote to its standard error output -/
  | errorOutput (stderr : String)
  /-- writing the script or talking to its process failed -/
  | io (cause : OsError)
  deriving DecidableEq, Repr

namespace ScriptError

/-- The text of the error. -/
def message : ScriptError → String
  | invalidTimeout => "Script timeout must be greater than zero"
  | notFound interpreter => "Interpreter not found: " ++ interpreter
  | permissionDenied interpreter => "Permission denied: " ++ interpreter
  | timeout elapsedMs => "Script timed out after " ++ naturalText elapsedMs ++ "ms"
  | executionFailed exitCode stderr =>
    "Script failed with exit code " ++ integerText exitCode ++ ": " ++ stderr
  | errorOutput _ => "Script execution produced error output"
  | io cause => "I/O error: " ++ cause.message

/-- The output that goes with the error: what a script wrote to its standard error output though it
ended with code 0, and nothing for the other errors. -/
def output : ScriptError → String
  | errorOutput stderr => stderr
  | _ => ""

/-- The deadline passed. -/
def isTimeout : ScriptError → Bool
  | timeout _ => true
  | _ => false

/-- The error below this one, if there is one. -/
def cause? : ScriptError → Option OsError
  | io cause => some cause
  | _ => none

/-- The error of a program that could not be started. -/
def ofLaunch (program : String) (cause : OsError) : ScriptError :=
  match cause.kind with
  | .notFound => notFound program
  | .permissionDenied => permissionDenied program
  | _ => io cause

end ScriptError

end Overseer.Script
