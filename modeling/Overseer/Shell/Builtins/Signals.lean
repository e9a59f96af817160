import Overseer.Shell.Builtins.Basic

/-!
# Built-in commands for processes and signals

## Main definitions

* `killCommand` — sends signals
* `waitCommand` — waits for commands in the background
* `trapCommand` — lays something down for signals
-/

namespace Overseer.Shell

open Overseer.Host Overseer.Os Overseer.Tools

/-! ## Sending signals -/

/-- The commands in the background that an argument names. -/
def jobOf? (s : Session) (argument : String) : Option Nat :=
  match argument.toList with
  | '%' :: rest =>
    match number? (String.ofList rest) with
    | some n => s.jobs[n - 1]?
    | none => s.lastBackground.filter fun _ => rest = [] ∨ rest = ['%'] ∨ rest = ['+']
  | _ => number? argument

/-- Reports an argument that names no process. -/
def noTarget (argument : String) : ShellM Unit := do
  let job := argument.startsWith "%"
  match ← dialect with
  | .bash =>
    builtinError "kill" (argument ++
      if job then ": no such job" else ": arguments must be process or job IDs") 1
  | .dash =>
    builtinFail "kill" ((if job then "No such job: " else "Illegal number: ") ++ argument) 2

/-- Sends a signal to the processes that arguments name, one by one. -/
def killEach (signal : Signal) : List String → ShellM Unit
  | [] => return
  | argument :: rest => do
    let s ← get
    let target : Option Int := match argument.toList with
      | '-' :: digits => (number? (String.ofList digits)).map fun n => -n
      | _ => (jobOf? s argument).map (Int.ofNat ·)
    match target with
    | none => noTarget argument
    | some target =>
      match ← ask (.kill target signal) with
      | .ok () => pure ()
      | .error e =>
        match s.dialect with
        | .bash => builtinError "kill" ("(" ++ argument ++ ") - " ++ e.text) 1
        | .dash => builtinError "kill" (e.text ++ "\n") 1
    killEach signal rest

/-- The numbers from which on statuses stand for signals. -/
def signalBase : Nat := 128

/-- Shows the names or the numbers of the signals that arguments are. -/
def showSignals (d : Dialect) : List String → ShellM Unit
  | [] => return
  | argument :: rest => do
    let bad : ShellM Unit := builtinError "kill" (argument ++ ": invalid signal specification") 1
    match number? argument with
    | some n =>
      let signal := if n > signalBase then n - signalBase else n
      if signal > maxSignal ∨ (d = .dash ∧ signal = 0) then
        match d with
        | .bash => bad
        | .dash => builtinFail "kill" ("invalid signal number or exit status: " ++ argument) 2
      else say "kill" (nameOfSignal d signal ++ "\n")
    | none =>
      match d, signalOf? d argument with
      | .dash, _ => builtinFail "kill" ("Illegal number: " ++ argument) 2
      | .bash, some signal => say "kill" (toString signal ++ "\n")
      | .bash, none => bad
    if d = .bash then showSignals d rest

/-- A number of two places and a name. -/
def listedSignal (signal : Signal) : String :=
  let number := toString signal
  "".pushn ' ' (2 - number.length) ++ number ++ ") SIG" ++ signalName signal

/-- The table of all signals, so many in a line. -/
def signalTable (columns : Nat) : String :=
  let signals := signalNames.map (·.2)
  let cells := signals.zipIdx.map fun (signal, i) =>
    listedSignal signal ++ if (i + 1) % columns = 0 then "\n" else "\t"
  String.join cells ++ if signals.length % columns = 0 then "" else "\n"

/-- The list of all signals. -/
def listSignals (d : Dialect) : ShellM Unit :=
  match d with
  | .bash => succeedWith "kill" (signalTable 5)
  | .dash => succeedWith "kill" ("0\n" ++
      String.join ((List.range maxSignal).map fun n => nameOfSignal d (n + 1) ++ "\n"))

/-- Shows how `kill` is used. -/
def killUsage : ShellM Unit := do
  match ← dialect with
  | .bash =>
    complainPlainly ("kill: usage: kill [-s sigspec | -n signum | -sigspec] pid | jobspec ... " ++
      "or kill -l [sigspec]")
  | .dash =>
    complain ("Usage: kill [-s sigspec | -signum | -sigspec] [pid | job]... or\n" ++
      "kill -l [exitstatus]")
  setStatus 2

/-- Sends the signal of a name to the processes that arguments name. -/
def killNamed (name : String) (targets : List String) : ShellM Unit := do
  let d ← dialect
  match signalOf? d name with
  | none =>
    match d with
    | .bash => builtinError "kill" (name ++ ": invalid signal specification") 1
    | .dash => builtinFail "kill" ("invalid signal number or name: " ++ name) 2
  | some signal =>
    match targets.dropWhile (· == "--") with
    | [] => killUsage
    | targets => killEach signal targets

/-- The command `kill`. -/
def killCommand (arguments : List String) : ShellM Unit := do
  setStatus 0
  let d ← dialect
  match arguments with
  | [] | ["--"] => killUsage
  | "--" :: targets => killEach Signal.term targets
  | first :: rest =>
    match first.toList with
    | '-' :: c :: more =>
      let word := String.ofList (c :: more)
      let joined := d = .bash ∧ c = 's' ∧ more.head?.any Char.isAlpha
      if !joined ∧ (signalOf? d word).isSome then killNamed word rest
      else match c, more with
        | 'l', [] | 'L', [] =>
          if d = .dash ∧ c = 'L' then builtinFail "kill" "Illegal option -L" 2
          else if rest.isEmpty then listSignals d
          else showSignals d rest
        | 's', [] =>
          match rest with
          | [] =>
            match d with
            | .bash => builtinError "kill" "-s: option requires an argument" 1
            | .dash => builtinFail "kill" "No arg for -s option" 2
          | name :: targets => killNamed name targets
        | 's', _ => killNamed (String.ofList more) rest
        | 'n', [] =>
          match d, rest with
          | .bash, name :: targets => killNamed name targets
          | .bash, [] => builtinError "kill" "-n: option requires an argument" 1
          | .dash, _ => builtinFail "kill" "Illegal option -n" 2
        | _, _ =>
          match d with
          | .bash => killNamed word rest
          | .dash => builtinFail "kill" ("Illegal option -" ++ c.toString) 2
    | _ => killEach Signal.term arguments

/-! ## Waiting -/

/-- Waits for a child in the background.  A signal that has been laid something down for ends the
wait. -/
def waitForJob (pid : Nat) : ShellM Nat := do
  match ← ask (.wait pid true) with
  | .ok (some (_, ending)) =>
    modify fun s => { s with jobs := s.jobs.filter (· != pid) }
    return statusOf ending
  | .error .interrupted =>
    takeSignals
    return signalBase + (← getting (·.pending)).headD 0
  | _ => return 127

/-- Waits for children one by one, until a signal comes. -/
def waitForAll : List Nat → ShellM Unit
  | [] => setStatus 0
  | pid :: rest => do
    let status ← waitForJob pid
    if (← get).pending.isEmpty then waitForAll rest else setStatus status

/-- Waits for the children that arguments name, one by one. -/
def waitForEach : List String → ShellM Unit
  | [] => return
  | argument :: rest => do
    let s ← get
    match jobOf? s argument with
    | none =>
      match s.dialect with
      | .bash =>
        if argument.startsWith "%" then builtinError "wait" (argument ++ ": no such job") 127
        else builtinError "wait" ("`" ++ argument ++ "': not a pid or valid job spec") 1
      | .dash => builtinFail "wait" ("No such job: " ++ argument) 2
    | some pid =>
      match s.ended.lookup pid with
      | some ending => setStatus (statusOf ending)
      | none =>
        if s.jobs.contains pid then
          let status ← waitForJob pid
          modify fun s => { s with status, ended := s.ended }
        else
          if s.dialect = .bash then
            builtinError "wait" ("pid " ++ argument ++ " is not a child of this shell") 127
          setStatus 127
    waitForEach rest

/-- The command `wait`. -/
def waitCommand (arguments : List String) : ShellM Unit := do
  match arguments.filter (!·.startsWith "-") with
  | [] => waitForAll (← get).jobs
  | names => waitForEach names

/-! ## Traps -/

/-- Lays something down for a signal.  A signal that was ignored when the shell was started stays
ignored. -/
def layDown (action : Option String) (signal : Signal) : ShellM Unit := do
  let s ← get
  if signal ≤ maxSignal ∧ signal ≠ atExit then
    let disposition := match action with
      | none => Disposition.standard
      | some "" => .ignored
      | some _ => .caught
    let before : Disposition ← ask (.dispose signal disposition)
    if before = .ignored ∧ (s.traps.lookup signal).isNone ∧ (s.own.lookup signal).isNone then
      let _ ← ask (.dispose signal .ignored)
      return
  let others := s.traps.filter (·.1 != signal)
  modify fun s =>
    { s with
      own := s.own.filter (·.1 != signal)
      traps := match action with
        | none => others
        | some text => others ++ [(signal, text)] }
  watchEnd

/-- The condition that an argument of `trap` names. -/
def conditionOf? (d : Dialect) (text : String) : Option Signal :=
  match d, text.toUpper with
  | .bash, "ERR" => some atFailure
  | .bash, "DEBUG" => some beforeCommand
  | _, _ => signalOf? d text

/-- Lays something down for the signals that arguments name. -/
def layDownEach (action : Option String) : List String → ShellM Unit
  | [] => return
  | name :: rest => do
    let d ← dialect
    match conditionOf? d name with
    | some signal =>
      layDown action signal
      layDownEach action rest
    | none =>
      match d with
      | .bash =>
        builtinError "trap" (name ++ ": invalid signal specification") 1
        layDownEach action rest
      | .dash =>
        complainPlainly ("trap: " ++ name ++ ": bad trap")
        setStatus 1

/-- What has been laid down, as commands. -/
def trapList (s : Session) (chosen : Signal → Bool) : String :=
  let name (signal : Signal) : String :=
    if signal = atFailure then "ERR"
    else if signal = beforeCommand then "DEBUG"
    else if s.dialect = .bash ∧ signal ≠ atExit then "SIG" ++ signalName signal
    else nameOfSignal s.dialect signal
  let traps := (s.traps.filter (chosen ·.1)).mergeSort fun a b => decide (a.1 ≤ b.1)
  String.join (traps.map fun (signal, action) =>
    "trap -- " ++ singleQuoted s.dialect action ++ " " ++ name signal ++ "\n")

/-- Shows how `trap` is used. -/
def trapUsage : ShellM Unit := do
  complainPlainly "trap: usage: trap [-lp] [[arg] signal_spec ...]"
  setStatus 2

/-- The command `trap` of the full shell. -/
def fullTrap (arguments : List String) : ShellM Unit := do
  let s ← get
  match arguments with
  | [] => succeedWith "trap" (trapList s fun _ => true)
  | "-p" :: names =>
    let chosen := names.filterMap (conditionOf? .bash)
    succeedWith "trap" (trapList s fun signal => names.isEmpty || chosen.contains signal)
  | ["-l"] => succeedWith "trap" (signalTable 5)
  | first :: rest =>
    let known := (conditionOf? .bash first).isSome
    if first.startsWith "-" ∧ first.length > 1 ∧ first ≠ "--" then
      builtinError "trap" (String.ofList (first.toList.take 2) ++ ": invalid option") 2
      trapUsage
    else if (number? first).isSome ∧ known then layDownEach none (first :: rest)
    else match rest with
      | [] => if known then layDownEach none [first] else trapUsage
      | names => layDownEach (if first = "-" then none else some first) names

/-- The command `trap` of the plain shell. -/
def plainTrap (arguments : List String) : ShellM Unit := do
  match arguments with
  | [] => succeedWith "trap" (trapList (← get) fun _ => true)
  | [name] => layDownEach none [name]
  | first :: rest =>
    if (number? first).isSome ∧ (signalOf? .dash first).isSome then layDownEach none (first :: rest)
    else layDownEach (if first = "-" then none else some first) rest

/-- The command `trap`. -/
def trapCommand (arguments : List String) : ShellM Unit := do
  setStatus 0
  match ← dialect, arguments with
  | .bash, "--" :: rest => fullTrap rest
  | .bash, _ => fullTrap arguments
  | .dash, "--" :: rest => plainTrap rest
  | .dash, first :: _ =>
    match first.toList with
    | '-' :: c :: _ => builtinFail "trap" ("Illegal option -" ++ c.toString) 2
    | _ => plainTrap arguments
  | .dash, [] => plainTrap []

end Overseer.Shell
