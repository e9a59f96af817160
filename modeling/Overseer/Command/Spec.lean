import Overseer.Os.Error
import Overseer.Text.OsText
import Overseer.Time.Duration

/-!
# Command specifications

A command specification says what to run and for how long it may run.  Depending on its mode the
program is a shell that gets a command line, a binary that gets the command text as its one
argument, or any program with a list of arguments.

## Main definitions

* `Mode` — how the arguments of the child are built
* `CommandSpec` — what to run
* `CommandSpec.arguments` — the arguments behind the program name
* `CommandSpec.validate` — refuses a specification that cannot be supervised
* `ExecError` — why a command did not run at all
-/

namespace Overseer

open Overseer.Text Overseer.Time Overseer.Os

/-- How the arguments of a child are built. -/
inductive Mode where
  /-- the arguments are passed as they are -/
  | script
  /-- the command text is the one argument -/
  | executable
  /-- the program is a shell that is told to run the command text -/
  | shell
  deriving DecidableEq, Repr, Inhabited

/-- The mode that a pair of flags stands for: script before executable before plain shell. -/
def Mode.ofFlags (isScript isExecutable : Bool) : Mode :=
  if isScript then .script else if isExecutable then .executable else .shell

/-- The shell that runs a command unless another one is named. -/
def defaultShell : String := "/bin/bash"

/-- The time that a command has unless another one is given. -/
def defaultTimeout : Duration := .ofSecs 30

/-- What to run, and for how long. -/
structure CommandSpec where
  /-- the shell, or the program itself where none is asked for -/
  shell : OsText := .ofString defaultShell
  /-- the command text -/
  command : String := ""
  /-- the argument list -/
  args : List String := []
  /-- after this time the child is killed -/
  timeout : Duration := defaultTimeout
  /-- how the arguments of the child are built -/
  mode : Mode := .shell
  /-- the child leads a process group of its own -/
  detached : Bool := false
  deriving Inhabited

/-- Why a command did not run at all. -/
inductive ExecError where
  /-- it was given no time -/
  | invalidTimeout
  /-- the program could not be started -/
  | launch (program : String) (cause : OsError)
  deriving DecidableEq, Repr

/-- The text of the error. -/
def ExecError.message : ExecError → String
  | invalidTimeout => "timeout must be greater than zero"
  | launch program cause => "failed to launch " ++ program ++ ": " ++ cause.message

/-- The error below this one, if there is one. -/
def ExecError.cause? : ExecError → Option OsError
  | invalidTimeout => none
  | launch _ cause => some cause

namespace CommandSpec

/-- A command line for the default shell. -/
def ofShell (command : String) : CommandSpec := { command }

/-- A program with its arguments. -/
def ofScript (program : OsText) (args : List String) : CommandSpec :=
  { shell := program, args, mode := .script }

/-- A binary with one argument. -/
def ofExecutable (binary : OsText) (command : String) : CommandSpec :=
  { shell := binary, command, mode := .executable }

/-- Refuses a specification that leaves no time to run. -/
def validate (spec : CommandSpec) : Except ExecError Unit :=
  if spec.timeout.isZero then .error .invalidTimeout else .ok ()

/-- The program name for messages. -/
def program (spec : CommandSpec) : String := spec.shell.display

/-- The arguments behind the program name. -/
def arguments (spec : CommandSpec) : List String :=
  match spec.mode with
  | .script => spec.args
  | .executable => [spec.command]
  | .shell => ["-c", spec.command]

theorem validate_eq_ok_iff {spec : CommandSpec} :
    spec.validate = .ok () ↔ spec.timeout ≠ .zero := by
  simp [validate, ← Duration.isZero_iff]

end CommandSpec

end Overseer
