import Overseer.Shell.Expansion
import Overseer.Tools.Echo
import Overseer.Tools.Printf
import Overseer.Tools.Test

/-!
# Names and messages of built-in commands

## Main definitions

* `specialBuiltins`, `regularBuiltins` — the names of built-in commands
* `builtinError`, `builtinFail` — their messages
* `say`, `succeedWith` — their output
-/

namespace Overseer.Shell

open Overseer.Host Overseer.Os Overseer.Tools

/-- Built-in commands whose failures end the plain shell. -/
def specialBuiltins : List String :=
  [":", ".", "break", "continue", "eval", "exec", "exit", "export", "readonly", "return", "set",
    "shift", "times", "trap", "unset"]

/-- The other built-in commands. -/
def regularBuiltins (d : Dialect) : List String :=
  ["echo", "printf", "test", "[", "true", "false", "pwd", "cd", "read", "kill", "wait", "type",
    "command", "umask", "getopts", "alias", "unalias", "hash", "jobs", "local", "ulimit", "fg",
    "bg"] ++
    match d with
    | .bash => ["source", "let", "declare", "typeset", "builtin", "shopt", "disown"]
    | .dash => []

/-- Whether a command is built in. -/
def isBuiltin (d : Dialect) (name : String) : Bool :=
  specialBuiltins.contains name || (regularBuiltins d).contains name

/-- The conventions of a dialect. -/
def manner : Dialect → Manner
  | .bash => .full
  | .dash => .plain

/-- Shows a message of a built-in command and sets the status. -/
def builtinError (name message : String) (status : Nat) : ShellM Unit := do
  match ← dialect with
  | .bash => complain (name ++ ": " ++ message)
  | .dash => complain message
  setStatus status

/-- Shows a message of a built-in command and gives up. -/
def builtinFail {α : Type} (name message : String) (status : Nat) : ShellM α := do
  builtinError name message status
  throw (.abandon status)

/-- Writes the output of a built-in command. -/
def say (name text : String) : ShellM Unit := do
  if text.isEmpty then return
  match ← perform (writeText 1 text) with
  | .ok () => return
  | .error e =>
    match ← dialect with
    | .bash => builtinError name ("write error: " ++ e.text) 1
    | .dash => builtinError name (name ++ ": I/O error") 1

/-- Writes the output of a built-in command that has succeeded otherwise. -/
def succeedWith (name text : String) : ShellM Unit := do
  setStatus 0
  say name text

/-- The number that the digits of a text are. -/
def number? (text : String) : Option Nat :=
  if text.toList.all Char.isDigit then text.toNat? else none

/-- Signals that the plain shell knows by their numbers only. -/
def namelessSignals : List Signal := [16, 32, 33]

/-- A text in single quotes. -/
def singleQuoted (d : Dialect) (text : String) : String :=
  "'" ++ text.replace "'" (match d with
    | .bash => "'\\''"
    | .dash => "'\"'\"'") ++ "'"

/-- The signal that an argument names. -/
def signalOf? (d : Dialect) (text : String) : Option Signal :=
  match number? text with
  | some n => if n ≤ maxSignal then some n else none
  | none =>
    match d with
    | .bash => if text.toUpper = "EXIT" then some atExit else signalOfName? text
    | .dash =>
      if text.toUpper = "EXIT" then some atExit
      else if text.toUpper.startsWith "SIG" then none
      else (signalOfName? text).filter (!namelessSignals.contains ·)

/-- The name of a signal. -/
def nameOfSignal (d : Dialect) (signal : Signal) : String :=
  if signal = atExit then "EXIT"
  else if d = .dash ∧ namelessSignals.contains signal then toString signal
  else signalName signal

end Overseer.Shell
