import Overseer.Shell.State
import Overseer.Tools.Quoting

/-!
# Running text

Commands are read and carried out one after another.  How a command is carried out is passed in
here; this module adds what surrounds it: texts of commands, the traps that are run between
commands, copies of the shell, and how the shell ends.

## Main definitions

* `Inner` — how commands are carried out
* `runText` — carries out the commands of a text
* `runTraps` — does what has been laid down for signals
* `copyProgram` — what a copy of the shell does
* `waitFor` — waits for a child
-/

namespace Overseer.Shell

open Overseer.Host Overseer.Os Overseer.Tools

/-- What comes after a command in its process. -/
inductive Position where
  /-- other commands may come -/
  | between
  /-- nothing comes -/
  | last
  /-- nothing comes, and the process was split off for this command -/
  | alone
  deriving DecidableEq, Repr, Inhabited

/-- How commands are carried out. -/
structure Inner where
  /-- carries out a command -/
  run : Position → Command → ShellM Unit

/-! ## Mistakes in texts -/

/-- Something unexpected, as the full shell names it. -/
def Unexpected.name : Unexpected → String
  | operator text | reserved text | word text => text
  | newline | endOfText | endOfLine => "newline"

/-- Something unexpected, as the plain shell names it. -/
def Unexpected.plainName : Unexpected → String
  | operator text =>
    if text.toList.any fun c => c == '<' || c == '>' then "redirection" else "\"" ++ text ++ "\""
  | reserved text => "\"" ++ text ++ "\""
  | word _ => "word"
  | newline => "newline"
  | endOfText | endOfLine => "end of file"

/-- How the plain shell reports a mistake. -/
def SyntaxError.plainMessage : SyntaxError → String
  | unexpected what expecting =>
    what.plainName ++ " unexpected" ++
      match expecting with
      | some e => " (expecting \"" ++ e ++ "\")"
      | none => ""
  | unclosed closer =>
    if closer = '`' then "EOF in backquote substitution"
    else if closer = '\x7d' then "Missing '\x7d'"
    else if closer = ')' then "Missing '))'"
    else "Unterminated quoted string"
  | unclosedOutput => "end of file unexpected"
  | badLoopVariable => "Bad for loop variable"

/-- The line of a number; the first line has the number `first`. -/
def lineOf (text : String) (first line : Nat) : String :=
  String.ofList ((text.toList.splitOn '\n').getD (line - first) [])

/-- Reports a mistake in a text whose first line has the number `first`. -/
def reportMistake (text : String) (first : Nat) (e : LocatedError) : ShellM Unit := do
  let s ← get
  let line := e.line
  match s.dialect with
  | .dash =>
    modify fun s => { s with line }
    complain ("Syntax error: " ++ e.error.plainMessage)
  | .bash =>
    let place := if s.place.isEmpty ∧ s.fromArgument then "-c: " else s.place
    let say (line : Nat) (message : String) : ShellM Unit :=
      complainPlainly (s.name ++ ": " ++ place ++ "line " ++ toString line ++ ": " ++ message)
    match e.error with
    | .unclosed closer =>
      say line ("unexpected EOF while looking for matching `" ++ closer.toString ++ "'")
    | .unclosedOutput => say line "unexpected EOF while looking for matching `)'"
    | .unexpected .endOfText _ => say line "syntax error: unexpected end of file"
    | .unexpected what _ =>
      say line ("syntax error near unexpected token `" ++ legible what.name ++ "'")
      say line ("`" ++ lineOf text first line ++ "'")
    | .badLoopVariable => say line "syntax error"

/-- Warns of text documents without an end. -/
def warnUnended : List UnendedDocument → ShellM Unit
  | [] => return
  | document :: rest => do
    let s ← get
    if s.dialect = .bash then
      complainPlainly (s.origin.getD s.name ++ ": line " ++ toString document.stop ++
        ": warning: here-document at line " ++ toString document.start ++
        " delimited by end-of-file (wanted `" ++ document.mark ++ "')")
    warnUnended rest

/-! ## Texts -/

/-- The status after a mistake in a text, given the one before.  The full shell keeps a failure if
the mistake is something unclosed. -/
def mistakeStatus (s : Session) : SyntaxError → Nat
  | .unclosed _ => if s.dialect = .bash ∧ s.place.isEmpty ∧ s.status ≠ 0 then s.status else 2
  | _ => 2

/-- Carries out the commands of a text whose first line has the number `first`, at most so many
lines of it.  With `goOn` a line that is given up is followed by the next one. -/
def runLines (inner : Inner) (position : Position) (goOn : Bool) (text : String) (first : Nat) :
    Nat → Input → ShellM Unit
  | 0, _ => return
  | n + 1, input => do
    match (nextCommand? (← dialect)).run input with
    | .error e =>
      reportMistake text first e
      setStatus (mistakeStatus (← get) e.error)
      throw .misread
    | .ok (none, _) => return
    | .ok (some c, rest) =>
      warnUnended rest.unended
      let rest := { rest with unended := [] }
      let atEnd := rest.rest.all fun ch => ch == '\n' || ch == ' ' || ch == '\t'
      if !(← get).options.noExec then
        match ← catching (inner.run (if atEnd then position else .between) c) with
        | .ok () => pure ()
        | .error (.abandon status) =>
          if goOn then setStatus status else throw (.abandon status)
        | .error l => throw l
      runLines inner position goOn text first n rest

/-- Carries out the commands of a text whose first line has the number `first`. -/
def runText (inner : Inner) (position : Position) (goOn : Bool) (text : String) (first : Nat) :
    ShellM Unit := do
  runLines inner position goOn text first (text.length + 1) { rest := text.toList, line := first }

/-! ## Signals -/

/-- The number under which the end of the shell is kept among the signals. -/
def atExit : Signal := 0

/-- The number under which the start of a command is kept among the signals. -/
def beforeCommand : Signal := 65

/-- The number under which the failure of a command is kept among the signals. -/
def atFailure : Signal := 66

/-- The signals before whose end the full shell does what has been laid down for its end. -/
def endingSignals : List Signal := [1, 2, 4, 5, 6, 7, 8, 10, 11, 12, 13, 14, 15, 24, 25, 26, 31]

/-- Catches the signals that would end the full shell before what has been laid down for its end is
done. -/
def watchEnd : ShellM Unit := do
  let s ← get
  if s.dialect = .bash ∧ (s.traps.lookup atExit).isSome then
    for signal in endingSignals do
      if (s.traps.lookup signal).isNone ∧ (s.own.lookup signal).isNone then
        let before : Disposition ← ask (.dispose signal .caught)
        if before = .ignored then
          let _ ← ask (.dispose signal .ignored)
        else modify fun s => { s with own := (signal, .caught) :: s.own }

/-- Lets the usual thing happen on the signals that the shell has said something about itself. -/
def disownSignals : ShellM Unit := do
  for (signal, _) in (← get).own do
    let _ ← ask (.dispose signal .standard)
  modify fun s => { s with own := [] }

/-- Takes the signals that have come.  The shell ends on those that it has caught to
that purpose. -/
def takeSignals : ShellM Unit := do
  let s ← get
  if !s.traps.isEmpty ∨ s.own.any (·.2 == .caught) then
    let signals : List Signal ← ask .caught
    modify fun s => { s with pending := s.pending ++ signals }
    let untrapped (signal : Nat) := (s.traps.lookup signal).isNone
    match signals.find? fun signal => untrapped signal && (s.own.lookup signal).isSome with
    | some signal => throw (.killed signal)
    | none => return

/-- Does what has been laid down for a signal. -/
def runTrap (inner : Inner) (signal : Signal) : ShellM Unit := do
  let s ← get
  match s.traps.lookup signal with
  | none => return
  | some action =>
    if action.isEmpty then return
    runText inner .between false action 1
    modify fun t => { t with status := s.status, line := s.line }

/-- Does what has been laid down for an event of the shell itself, which does not count as long as
that is done. -/
def runEventTrap (inner : Inner) (event : Signal) : ShellM Unit := do
  let s ← get
  match s.traps.lookup event with
  | none => return
  | some action =>
    if s.calls = 0 then
      modify fun s => { s with traps := s.traps.filter (·.1 != event) }
      always (runText inner .between false action s.line) (modify fun t =>
        { t with
          status := s.status, line := s.line
          traps :=
            if (t.traps.lookup event).isSome then t.traps else t.traps ++ [(event, action)] })

/-- Does what has been laid down for signals, one by one. -/
def runTrapsOf (inner : Inner) : List Signal → ShellM Unit
  | [] => return
  | signal :: rest => do
    runTrap inner signal
    runTrapsOf inner rest

/-- Does what has been laid down for the signals that have come. -/
def runTraps (inner : Inner) : ShellM Unit := do
  takeSignals
  let signals ← getting (·.pending)
  if !signals.isEmpty then
    modify fun s => { s with pending := [] }
    runTrapsOf inner signals

/-! ## Ends -/

/-- The status with which a shell ends that is left in some way. -/
def Leave.status (s : Session) : Leave → Nat
  | .exit status | .return status | .abandon status => status
  | .break _ | .continue _ | .misread => s.status
  | .killed signal => 128 + signal

/-- Runs a shell to its end, and gives its exit code.  What has been laid down for the end is done
then. -/
def toEnd (inner : Inner) (m : ShellM Unit) (s : Session) : Act Nat := do
  let (r, s) ← m s
  let status := match r with
    | .ok () => s.status
    | .error l => l.status s
  let status ← match s.traps.lookup atExit with
    | none => pure status
    | some action => do
      let s := { s with status, traps := s.traps.filter (·.1 != atExit) }
      let (r, s) ← runText inner .between false action 1 { s with lineShift := 0 }
      pure (match r with
        | .ok () => status
        | .error (.exit n) => n
        | .error l => l.status s)
  match r with
  | .error (.killed signal) => do
    let _ ← Act.call (.dispose signal .standard)
    let numbers ← Act.call .numbers
    let _ ← Act.call (.kill numbers.pid signal)
    return status
  | _ => return status

/-! ## Copies -/

/-- Gives up what has been laid down for signals, except what is ignored. -/
def resetTraps : ShellM Unit := do
  let traps ← getting (·.traps)
  let rec go : List (Signal × String) → ShellM Unit
    | [] => return
    | (signal, action) :: rest => do
      if signal ≠ atExit ∧ !action.isEmpty then
        let _ ← ask (.dispose signal .standard)
      go rest
  go traps
  disownSignals
  modify fun s => { s with traps := s.traps.filter (·.2.isEmpty), pending := [] }

/-- What a copy of the shell does. -/
def copyProgram (inner : Inner) (m : ShellM Unit) (s : Session) : Program :=
  Act.program (toEnd inner
    (do
      resetTraps
      modify fun s => { s with jobs := [], loops := 0, depth := s.depth + 1 }
      m) s)

/-- Splits off a copy of the shell. -/
def splitOff (inner : Inner) (m : ShellM Unit) : ShellM Nat := do
  let s ← get
  perform (Act.fork (copyProgram inner m s))

/-! ## Waiting -/

/-- The status that an ending gives. -/
def statusOf : Ending → Nat
  | .exited code => code
  | .killed signal => 128 + signal

/-- A time that a step of the shell itself takes. -/
def stepTime : Nat := 2000

/-- Waits for a child, whatever signals come. -/
def waitForIn (pid : Nat) : Nat → ShellM (Option Ending)
  | 0 => return none
  | n + 1 => do
    match ← ask (.wait pid true) with
    | .ok (some (_, ending)) => return some ending
    | .ok none => waitForIn pid n
    | .error .interrupted => do
      takeSignals
      waitForIn pid n
    | .error _ => return none

/-- Waits for a child, whatever signals come. -/
def waitFor (pid : Nat) : ShellM (Option Ending) := waitForIn pid manyTimes

/-- Reports that a signal has ended a child that the shell has waited for. -/
def reportKilled (pid : Nat) (ending : Ending) : ShellM Unit := do
  match ending with
  | .exited _ => return
  | .killed signal =>
    if signal = 2 ∨ signal = Signal.pipe then return
    match ← dialect with
    | .dash => complainPlainly (signalText signal)
    | .bash =>
      if signal = Signal.term then complainPlainly (signalText signal)
      else
        let number := toString pid
        let pad (n : Nat) (s : String) : String := s ++ "".pushn ' ' (n - s.length)
        complain ("".pushn ' ' (5 - number.length) ++ number ++ " " ++ pad 24 (signalText signal))

end Overseer.Shell
