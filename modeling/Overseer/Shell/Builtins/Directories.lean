import Overseer.Shell.Builtins.Basic

/-!
# Going to other directories

## Main definitions

* `cdCommand` — the command `cd`
-/

namespace Overseer.Shell

open Overseer.Host Overseer.Os Overseer.Tools

/-- Goes to a directory. -/
def goToDirectory (target : String) (show_ : Bool) : ShellM Unit := do
  match ← ask (.goTo target) with
  | .error e =>
    match ← dialect with
    | .bash => builtinError "cd" (legible target ++ ": " ++ e.text) 1
    | .dash => builtinError "cd" ("can't cd to " ++ target) 2
  | .ok () =>
    let old ← getting (·.directory)
    let new : String ← ask .here
    modify fun s => { (s.assignValue "OLDPWD" old).assignValue "PWD" new with directory := new }
    succeedWith "cd" (if show_ then new ++ "\n" else "")

/-- The command `cd`. -/
def cdCommand (arguments : List String) : ShellM Unit := do
  let arguments := arguments.filter fun a => a != "-P" && a != "-L" && a != "--"
  let s ← get
  match arguments with
  | [] =>
    match s.value? "HOME" with
    | some home => goToDirectory home false
    | none => builtinError "cd" "HOME not set" (if s.dialect = .bash then 1 else 2)
  | ["-"] =>
    match s.value? "OLDPWD" with
    | some old => goToDirectory old true
    | none =>
      match s.dialect with
      | .bash => builtinError "cd" "OLDPWD not set" 1
      | .dash => goToDirectory s.directory true
  | target :: rest =>
    if !rest.isEmpty ∧ s.dialect = .bash then builtinError "cd" "too many arguments" 1
    else if target.isEmpty then setStatus 0
    else goToDirectory target false

end Overseer.Shell
