import Overseer.Shell.Builtins.Directories
import Overseer.Shell.Builtins.Settings
import Overseer.Shell.Builtins.Signals

/-!
# Built-in commands

Commands that a shell carries out itself.  Those that carry out other commands in their turn are not
here but in `Overseer.Shell.Evaluation`.

## Main definitions

* `testCommand`, `printfCommand` — commands that are tools as well
* `runBuiltin` — carries out a built-in command
-/

namespace Overseer.Shell

open Overseer.Host Overseer.Os Overseer.Tools

/-- The command `test`. -/
def testCommand (name : String) (arguments : List String) : ShellM Unit := do
  let d ← dialect
  let verdict : Verdict ←
    if name = "[" then
      if arguments.getLast? = some "]" then perform (testArguments (manner d) arguments.dropLast)
      else pure (.error (if d = .bash then "missing `]'" else "missing ]"))
    else perform (testArguments (manner d) arguments)
  match verdict with
  | .ok b => setStatus (if b then 0 else 1)
  | .error message => builtinError name message 2

/-- Shows the reports of formatted output. -/
def showReports (name : String) (status : Nat) : List String → ShellM Unit
  | [] => setStatus status
  | r :: rest => do
    builtinError name r status
    showReports name status rest

/-- The command `printf`. -/
def printfCommand (arguments : List String) : ShellM Unit := do
  let d ← dialect
  let run (format : String) (rest : List String) : Printing := printFormat (manner d) format rest
  let status (p : Printing) : Nat :=
    if p.badFormat ∧ d = .dash then 2 else if p.failed then 1 else 0
  let print (arguments : List String) : ShellM Unit := do
    match arguments with
    | [] =>
      match d with
      | .bash => complainPlainly "printf: usage: printf [-v var] format [arguments]"
      | .dash => complain "usage: printf format [arg ...]"
      setStatus 2
    | format :: rest =>
      let p := run format rest
      showReports "printf" (status p) p.reports.reverse
      say "printf" p.text
  match arguments with
  | "--" :: rest => print rest
  | "-v" :: name :: format :: rest =>
    if d = .bash then
      let p := run format rest
      showReports "printf" (status p) p.reports.reverse
      assign name p.text
    else builtinError "printf" "Illegal option -v" 2
  | first :: _ =>
    match first.toList with
    | '-' :: c :: _ =>
      match d with
      | .bash =>
        builtinError "printf" ("-" ++ c.toString ++ ": invalid option") 2
        complainPlainly "printf: usage: printf [-v var] format [arguments]"
      | .dash => builtinError "printf" ("Illegal option -" ++ c.toString) 2
    | _ => print arguments
  | [] => print []

/-- Carries out a built-in command that carries out no others. -/
def runBuiltin (name : String) (arguments : List String) : ShellM Unit := do
  let d ← dialect
  match name with
  | ":" | "true" => setStatus 0
  | "false" => setStatus 1
  | "echo" => succeedWith "echo" (echoText (manner d) arguments)
  | "printf" => printfCommand arguments
  | "test" | "[" => testCommand name arguments
  | "pwd" =>
    let here : String ← ask .here
    succeedWith "pwd" (here ++ "\n")
  | "cd" => cdCommand arguments
  | "read" => readCommand arguments
  | "kill" => killCommand arguments
  | "wait" => waitCommand arguments
  | "trap" => trapCommand arguments
  | "umask" => umaskCommand arguments
  | "getopts" => getoptsCommand arguments
  | "local" => localCommand arguments
  | "declare" | "typeset" => declareCommand arguments
  | "let" => letCommand arguments
  | "export" =>
    if d = .bash ∧ arguments.head? = some "-n" then
      setStatus 0
      changeVariables "export" (fun v => { v with exported := false }) (arguments.drop 1)
    else
      markCommand "export" "x" (·.exported) (fun v => { v with exported := true }) arguments
  | "readonly" => markCommand "readonly" "r" (·.fixed) (fun v => { v with fixed := true }) arguments
  | "unset" => unsetCommand arguments
  | "set" =>
    setStatus 0
    setCommand arguments
  | "shift" => shiftCommand arguments
  | "exit" => exitCommand arguments
  | "return" => returnCommand arguments
  | "break" => leaveLoop "break" Leave.break arguments
  | "continue" => leaveLoop "continue" Leave.continue arguments
  | "times" => succeedWith "times" "0m0.000s 0m0.000s\n0m0.000s 0m0.000s\n"
  | _ => setStatus 0

end Overseer.Shell
