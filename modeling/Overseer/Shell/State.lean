import Overseer.Host.Streams
import Overseer.Shell.Commands
import Overseer.Shell.Arithmetic

/-!
# The state of a shell

A shell keeps variables, functions, options and what it knows about its children.  A step of a shell
can change its state, make calls, and leave what is being done.

## Main definitions

* `Variable`, `Session` — the state
* `Leave` — why a step does not go on
* `ShellM` — steps of a shell
* `complain` — messages
-/

namespace Overseer.Shell

open Overseer.Host Overseer.Os

/-- A variable of a shell. -/
structure Variable where
  /-- its value, if it has one -/
  value : Option String := none
  /-- programs are given it -/
  exported : Bool := false
  /-- it cannot be changed -/
  fixed : Bool := false
  deriving Inhabited, Repr

/-- Options of a shell. -/
structure Options where
  /-- a failure ends the shell -/
  errExit : Bool := false
  /-- variables without a value are an error -/
  noUnset : Bool := false
  /-- commands are shown before they are carried out -/
  trace : Bool := false
  /-- patterns are not replaced by file names -/
  noGlob : Bool := false
  /-- files are not overwritten -/
  noClobber : Bool := false
  /-- all variables are exported -/
  allExport : Bool := false
  /-- a pipeline fails if one of its commands does -/
  pipeFail : Bool := false
  /-- commands are not carried out -/
  noExec : Bool := false
  deriving Inhabited, Repr

/-- The state of a shell. -/
structure Session where
  /-- which shell it is -/
  dialect : Dialect
  /-- the name that it has been given -/
  name : String
  /-- what its messages name before the line, if not only the shell -/
  place : String := ""
  /-- its arguments -/
  arguments : List String := []
  /-- its variables -/
  bindings : List (String × Variable) := []
  /-- its functions, each with the text that it comes from -/
  functions : List (String × Command × String) := []
  /-- the text that its commands come from, if that is not named like the shell -/
  origin : Option String := none
  /-- the status of the last command -/
  status : Nat := 0
  /-- the status of the last command whose output was taken -/
  outputStatus : Nat := 0
  /-- its commands were given as an argument -/
  fromArgument : Bool := false
  /-- its commands come from its standard input -/
  fromInput : Bool := false
  /-- its process number, which its copies keep -/
  pid : Nat := 0
  /-- the last command in the background -/
  lastBackground : Option Nat := none
  /-- the commands in the background that have not been waited for -/
  jobs : List Nat := []
  /-- commands in the background that have ended, and how -/
  ended : List (Nat × Ending) := []
  /-- its options -/
  options : Options := {}
  /-- the line of the command that is carried out -/
  line : Nat := 1
  /-- the lines of commands are counted from so many lines further down -/
  lineShift : Int := 0
  /-- the name of the function that is carried out -/
  callName : String := ""
  /-- what is done on signals; no text ignores one -/
  traps : List (Signal × String) := []
  /-- signals that have come and have not been dealt with -/
  pending : List Signal := []
  /-- what the shell itself has said about signals, for which nothing is laid down -/
  own : List (Signal × Disposition) := []
  /-- loops around the command -/
  loops : Nat := 0
  /-- functions around the command -/
  calls : Nat := 0
  /-- files that are read into the shell around the command -/
  sourced : Nat := 0
  /-- the variables that the functions around the command have hidden -/
  hidden : List (List (String × Option Variable)) := []
  /-- a failure of the command is looked at -/
  tested : Bool := false
  /-- copies between this shell and the first one -/
  depth : Nat := 0
  /-- the place in the argument that `getopts` has come to -/
  optionOffset : Nat := 0
  /-- the mask of permission bits -/
  mask : Nat := 0o022
  /-- the directory that the shell believes it is in -/
  directory : String := "/"
  deriving Inhabited

/-- Why a step does not go on. -/
inductive Leave where
  /-- loops are left -/
  | break (levels : Nat)
  /-- loops go on with their next turn -/
  | continue (levels : Nat)
  /-- a function or a file is left -/
  | return (status : Nat)
  /-- the shell ends -/
  | exit (status : Nat)
  /-- the shell gives up the line that it carries out -/
  | abandon (status : Nat)
  /-- the text that is carried out makes no sense -/
  | misread
  /-- the shell ends by a signal -/
  | killed (signal : Signal)
  deriving Inhabited, Repr

/-- Steps of a shell. -/
abbrev ShellM := ExceptT Leave (StateT Session Act)

instance {α : Type} : Inhabited (ShellM α) := ⟨throw (.exit 2)⟩

/-- A call as a step. -/
def ask (c : Call) : ShellM c.Reply := fun s => do
  let answer ← Act.call c
  return (.ok answer, s)

/-- A part of the state. -/
def getting {α : Type} (f : Session → α) : ShellM α := return f (← get)

/-- The dialect. -/
def dialect : ShellM Dialect := getting (·.dialect)

/-- Says that the command of a line is carried out. -/
def atLine (line : Nat) : ShellM Unit :=
  modify fun s => { s with line := (line + s.lineShift).toNat }

/-- Lets the status be known. -/
def setStatus (status : Nat) : ShellM Unit := modify fun s => { s with status }

/-- Runs a step and says how it left. -/
def catching {α : Type} (m : ShellM α) : ShellM (Except Leave α) := fun s => do
  let (r, s) ← m s
  return (.ok r, s)

/-- Leaves again. -/
def rethrow {α : Type} : Except Leave α → ShellM α
  | .ok a => return a
  | .error l => throw l

/-- Runs a step, then another one that puts things back, however the first one went. -/
def always {α : Type} (m : ShellM α) (afterwards : ShellM Unit) : ShellM α := do
  let r ← catching m
  afterwards
  rethrow r

/-- Runs a step with a changed state, and puts a part of it back. -/
def changing {α : Type} (change : Session → Session) (back : Session → Session → Session)
    (m : ShellM α) : ShellM α := do
  let before ← get
  modify change
  always m (modify (back before))

/-! ## Output -/

/-- An act as a step. -/
def perform {α : Type} (m : Act α) : ShellM α := fun s => do
  let a ← m
  return (.ok a, s)

/-- What the messages of a shell begin with. -/
def messageStart (s : Session) : String :=
  match s.dialect with
  | .bash => s.origin.getD s.name ++ ": line " ++ toString s.line ++ ": "
  | .dash => s.name ++ ": " ++ toString s.line ++ ": " ++ s.place

/-- Shows a message. -/
def complain (message : String) : ShellM Unit := do
  let start ← getting messageStart
  let _ ← perform (writeText 2 (start ++ message ++ "\n"))

/-- Shows a message without its usual beginning. -/
def complainPlainly (message : String) : ShellM Unit := do
  let _ ← perform (writeText 2 (message ++ "\n"))

/-- The status after an error that the plain shell does not survive. -/
def fatalStatus : Nat := 2

/-- Shows a message and gives up. -/
def failFatally {α : Type} (message : String) (status : Nat) : ShellM α := do
  complain message
  throw (.abandon status)

/-- Shows a message about a missing value and ends the shell. -/
def failUnset {α : Type} (message : String) : ShellM α := do
  complain message
  let s ← get
  match s.dialect with
  | .bash => throw (.exit (if s.fromArgument then 127 else 1))
  | .dash => throw (.abandon fatalStatus)

/-! ## Variables -/

namespace Session

/-- A variable. -/
def binding? (s : Session) (name : String) : Option Variable := s.bindings.lookup name

/-- The value of a variable. -/
def value? (s : Session) (name : String) : Option String := (s.binding? name).bind (·.value)

/-- Puts a variable in place. -/
def setVariable (s : Session) (name : String) (v : Variable) : Session :=
  { s with bindings := (name, v) :: s.bindings.filter (·.1 != name) }

/-- Takes a variable away. -/
def dropVariable (s : Session) (name : String) : Session :=
  { s with bindings := s.bindings.filter (·.1 != name) }

/-- Gives a value to a variable that can be changed. -/
def assignValue (s : Session) (name value : String) : Session :=
  let v := (s.binding? name).getD {}
  s.setVariable name { v with value := some value, exported := v.exported || s.options.allExport }

/-- The environment of programs that the shell starts. -/
def environment (s : Session) : Variables :=
  s.bindings.reverse.filterMap fun (name, v) =>
    if v.exported then v.value.map (name, ·) else none

/-- The characters at which values are split. -/
def separators (s : Session) : String := (s.value? "IFS").getD " \t\n"

end Session

/-- Says that a variable cannot be changed. -/
def failFixed {α : Type} (name : String) : ShellM α := do
  match ← dialect with
  | .bash => failFatally (name ++ ": readonly variable") 1
  | .dash => failFatally (name ++ ": is read only") fatalStatus

/-- Gives a value to a variable. -/
def assign (name value : String) : ShellM Unit := do
  if ((← get).binding? name).any (·.fixed) then failFixed name
  modify (·.assignValue name value)

/-- The variables as expressions see them. -/
def store : Arithmetic.Store Session where
  lookup s name := s.value? name
  assign name value s := s.assignValue name value

/-- The value of an expression. -/
def arithmetic (text : String) : ShellM Int64 := do
  let s ← get
  match Arithmetic.compute s.dialect store text s with
  | .ok (v, s) =>
    set s
    return v
  | .error m =>
    failFatally (m.message s.dialect text) (if s.dialect = .bash then 1 else fatalStatus)

end Overseer.Shell
