import Overseer.Shell.Builtins
import Overseer.Shell.Redirect

/-!
# Carrying out commands

Commands are trees, and carrying one out means carrying out its parts.  The definitions here take
the way in which parts are carried out as an argument; `carryOut` closes the circle.

## Main definitions

* `runProgram` — another program
* `runSimple` — a simple command
* `runPipeline`, `runLoop`, `runSelect`, … — the other commands
* `carryOut` — any command
-/

namespace Overseer.Shell

open Overseer.Host Overseer.Os Overseer.Tools

/-! ## Programs -/

/-- The variable with the directories that programs are searched in. -/
def pathName : String := "PATH"

/-- The paths under which a program name is searched. -/
def searchedPaths (s : Session) (name : String) : List String :=
  (((s.value? pathName).getD "").toList.splitOn ':').map fun dir =>
    if dir.isEmpty then "./" ++ name else String.ofList dir ++ "/" ++ name

/-- Whether a path stands for a directory. -/
def isDirectory (path : String) : ShellM Bool := do
  match ← ask (.status path true) with
  | .ok { identity := .directory _, .. } => return true
  | _ => return false

/-- Becomes the program at the first of some paths where that works, and gives the reason why it
does not work. -/
def becomeFirst (arguments : List String) (environment : Variables) :
    (reason : Errno) → List String → ShellM Errno
  | reason, [] => return reason
  | reason, path :: rest => do
    let e : Errno ← ask (.become path arguments environment)
    if e = .notExecutable then
      let shell := if (← dialect) = .bash then "/bin/bash" else "/bin/sh"
      let _ ← ask (.become shell (shell :: path :: arguments.drop 1) environment)
    let nothing := e = .noEntry ∨ e = .notDirectory
    let passed ← if e = .denied ∧ path ≠ arguments.headD "" then isDirectory path else pure false
    becomeFirst arguments environment (if nothing ∨ passed then reason else e) rest

/-- Whether one of some paths stands for a directory. -/
def anyDirectory : List String → ShellM Bool
  | [] => return false
  | path :: rest => do
    if ← isDirectory path then return true
    anyDirectory rest

/-- Reports that a program could not be started, and ends the process. -/
def programFailure (name : String) (e : Errno) (byExec : Bool) : ShellM Unit := do
  let missing := e = .noEntry ∨ e = .notDirectory
  let slash := name.toList.contains '/'
  match ← dialect with
  | .dash =>
    let s ← get
    let hidden ← anyDirectory (if slash then [] else searchedPaths s name)
    complain ((if byExec then "exec: " else "") ++ name ++ ": " ++
      if hidden then Errno.denied.text else if missing then "not found" else e.text)
    let unfound := if hidden then !byExec else missing || e == .nameTooLong || e == .linkLoop
    throw (.exit (if unfound then 127 else 126))
  | .bash =>
    if slash then
      if ← isDirectory name then
        complain (name ++ ": Is a directory")
        throw (.exit 126)
      let there ← perform (testUnary "-e" name)
      complain (name ++ ": " ++
        if e = .noEntry ∧ there.toOption = some true then "cannot execute: required file not found"
        else e.text)
      throw (.exit (if e = .noEntry then 127 else 126))
    else if missing then
      let path := (← get).value? pathName
      complain (if byExec then "exec: " ++ name ++ ": not found"
        else if path.all (·.isEmpty) then name ++ ": No such file or directory"
        else legible name ++ ": command not found")
      throw (.exit 127)
    else
      complain (name ++ ": " ++ e.text)
      throw (.exit 126)

/-- Becomes another program. -/
def becomeProgram (arguments : List String) (byExec : Bool) : ShellM Unit := do
  match arguments with
  | [] => return
  | name :: _ =>
    disownSignals
    let s ← get
    let paths := if name.toList.contains '/' then [name]
      else if name.isEmpty ∧ s.dialect = .bash then [] else searchedPaths s name
    let e ← becomeFirst arguments s.environment .noEntry paths
    programFailure name e byExec

/-! ## Assignments -/

/-- Gives values to variables. -/
def assignEach (inner : Inner) (exported : Bool) : List (String × Bool × Word) → ShellM Unit
  | [] => return
  | (name, adds, w) :: rest => do
    let value ← expandText inner w
    let s ← get
    let old := if adds then (s.value? name).getD "" else ""
    assign name (old ++ value)
    if exported then
      modify fun s => s.setVariable name { ((s.binding? name).getD {}) with exported := true }
    assignEach inner exported rest

/-- Runs a step in which variables have other values. -/
def withAssigned (inner : Inner) (assignments : List (String × Bool × Word)) (m : ShellM Unit) :
    ShellM Unit := do
  if assignments.isEmpty then m
  else
    let before ← get
    let names := assignments.map (·.1)
    assignEach inner true assignments
    always m (modify fun s => names.foldl (fun s name =>
      match before.binding? name with
      | some v => s.setVariable name v
      | none => s.dropVariable name) s)

/-! ## Status -/

/-- Does what has been laid down for failures if a command has failed, and ends the shell if that is
to end it. -/
def checkStatus (inner : Inner) : ShellM Unit := do
  let s ← get
  if !s.tested ∧ s.status ≠ 0 then
    runEventTrap inner atFailure
    if s.options.errExit then throw (.exit s.status)

/-- Runs a step whose status is looked at. -/
def whileTested (m : ShellM Unit) : ShellM Unit :=
  changing (fun s => { s with tested := true })
    (fun before s => { s with tested := before.tested }) m

/-- Waits for a child that the shell has split off for a command. -/
def waitForeground (pid : Nat) : ShellM Unit := do
  match ← waitFor pid with
  | none => setStatus 127
  | some ending =>
    setStatus (statusOf ending)
    reportKilled pid ending

/-! ## Simple commands -/

/-- A text in the trace of commands. -/
def tracedText (d : Dialect) (text : String) : String :=
  match d with
  | .dash => text
  | .bash =>
    if text.isEmpty ∨ hasMeaning text then singleQuoted d text else legible text

/-- Shows a command before it is carried out. -/
def traceCommand (words : List String) : ShellM Unit := do
  if (← get).options.trace then
    let d ← dialect
    complainPlainly ("+ " ++ " ".intercalate (words.map (tracedText d)))

/-- Shows assignments that have been made. -/
def traceAssignments : List (String × Bool × Word) → ShellM Unit
  | [] => return
  | (name, _, _) :: rest => do
    let s ← get
    if s.options.trace then
      complainPlainly ("+ " ++ name ++ "=" ++ match s.value? name with
        | none | some "" => ""
        | some v => tracedText s.dialect v)
    traceAssignments rest

/-- A command can be carried out by becoming its program. -/
def mayBecome (s : Session) (position : Position) (redirections : List Redirection) : Bool :=
  match position with
  | .between => false
  | .alone => s.traps.all (·.2.isEmpty)
  | .last => s.traps.isEmpty && (s.dialect == .dash || redirections.isEmpty)

/-- Carries out another program.  The plain shell carries out its redirections itself and takes them
back afterwards. -/
def runProgram (inner : Inner) (position : Position) (words : List String)
    (assignments : List (String × Bool × Word)) (redirections : List Redirection) :
    ShellM Unit := do
  let become : ShellM Unit := do
    match ← redirectAll inner false redirections with
    | none => throw (.exit (redirectionStatus (← dialect)))
    | some _ =>
      assignEach inner true assignments
      becomeProgram words false
  if mayBecome (← get) position redirections then become
  else if (← dialect) = .dash then
    let _ ← withRedirected inner redirections do
      waitForeground (← splitOff inner do
        assignEach inner true assignments
        becomeProgram words false)
  else waitForeground (← splitOff inner become)

/-- Carries out a function. -/
def runFunction (inner : Inner) (name : String) (body : Command) (origin : String)
    (arguments : List String) : ShellM Unit := do
  let before ← get
  modify fun s =>
    { s with
      arguments, origin := some origin, callName := name, lineShift := 0
      calls := s.calls + 1, loops := 0, hidden := [] :: s.hidden }
  let r ← catching (inner.run .between body)
  modify fun s =>
    let scope := s.hidden.headD []
    let s := scope.foldl (fun s (name, v) =>
      match v with
      | some v => s.setVariable name v
      | none => s.dropVariable name) s
    { s with
      arguments := before.arguments, origin := before.origin
      callName := before.callName, lineShift := before.lineShift, line := before.line
      calls := before.calls, loops := before.loops
      hidden := s.hidden.drop 1 }
  match r with
  | .ok () => return
  | .error (.return status) => setStatus status
  | .error l => throw l

/-- Reads a file whose commands are to be carried out. -/
def readScript (path : String) : ShellM (Except Errno String) := do
  match ← ask (.openFile path { read := true }) with
  | .error e => return .error e
  | .ok fd =>
    let bytes ← perform (readAll fd)
    let _ ← ask (.close fd)
    return bytes.map octets

/-- Carries out the commands of a file that has been read, with other arguments if there are some. -/
def runSourced (inner : Inner) (path : String) (rest : List String) (text : String) : ShellM Unit := do
  let s ← get
  modify fun s =>
    { s with
      sourced := s.sourced + 1, origin := some path, lineShift := 0
      arguments := if rest.isEmpty ∨ s.dialect = .dash then s.arguments else rest }
  let r ← catching (runText inner .between false text 1)
  modify fun t =>
    { t with
      sourced := s.sourced, origin := s.origin, lineShift := s.lineShift
      arguments := if rest.isEmpty then t.arguments else s.arguments }
  match r with
  | .ok () => return
  | .error (.return status) => setStatus status
  | .error .misread => if s.dialect = .dash then throw (.exit 2)
  | .error l => throw l

/-- The command `.`. -/
def sourceCommand (inner : Inner) (name : String) (arguments : List String) : ShellM Unit := do
  match arguments with
  | [] =>
    match ← dialect with
    | .bash => builtinError name "filename argument required" 2
    | .dash => setStatus 0
  | path :: rest =>
    let s ← get
    let places := if path.toList.contains '/' then [path]
      else searchedPaths s path ++ if s.dialect = .bash then [path] else []
    let mut found : Except Errno String := .error .noEntry
    for place in places do
      if found.toOption.isNone then found ← readScript place
    match found with
    | .error e =>
      match s.dialect with
      | .bash =>
        complain (path ++ ": " ++ e.text)
        setStatus 1
      | .dash =>
        builtinFail name ("cannot open " ++ path ++ ": " ++
          if e = .noEntry then "No such file" else e.text) 2
    | .ok text =>
      setStatus 0
      runSourced inner path rest text

/-- The command `eval`. -/
def evalCommand (inner : Inner) (arguments : List String) : ShellM Unit := do
  let s ← get
  setStatus 0
  let place := if s.dialect = .bash then "eval: " else s.place
  let first := if s.dialect = .bash then s.line else 1
  let r ← catching (changing (fun s => { s with place, lineShift := 0 }) (fun before s =>
    { s with place := before.place, line := before.line, lineShift := before.lineShift })
      (runText inner .between false (" ".intercalate arguments) first))
  match r with
  | .error .misread => if s.dialect = .dash then throw (.exit 2)
  | r => rethrow r

/-- How a shell would understand a command name. -/
inductive Meaning where
  | keyword | function | special | builtin
  | program (path : String)
  | nothing

/-- The path of the program that a command name stands for. -/
def programOf? (name : String) : ShellM (Option String) := do
  let s ← get
  for path in if name.toList.contains '/' then [name] else searchedPaths s name do
    match ← perform (testUnary "-x" path), ← perform (testUnary "-d" path) with
    | .ok true, .ok false => return some path
    | _, _ => pure ()
  return none

/-- Finds out how the shell would understand a command name. -/
def meaningOf (name : String) : ShellM Meaning := do
  let s ← get
  let reserved := match s.dialect with
    | .bash => ["[[", "]]", "function", "time"] ++ reservedWords
    | .dash => reservedWords
  if reserved.contains name then
    return .keyword
  if (s.functions.lookup name).isSome then return .function
  if specialBuiltins.contains name then return .special
  if isBuiltin s.dialect name then return .builtin
  match ← programOf? name with
  | some path => return .program path
  | none => return .nothing

/-- Describes command names. -/
def describeEach (command : String) (short : Bool) : List String → ShellM Unit
  | [] => return
  | name :: rest => do
    let d ← dialect
    let tell (text : String) : ShellM Unit := say command (text ++ "\n")
    match ← meaningOf name with
    | .keyword => tell (if short then name else name ++ " is a shell keyword")
    | .function =>
      tell (if short then name
        else if d = .bash then name ++ " is a function" else name ++ " is a shell function")
    | .special =>
      tell (if short then name
        else if d = .bash then name ++ " is a shell builtin"
        else name ++ " is a special shell builtin")
    | .builtin => tell (if short then name else name ++ " is a shell builtin")
    | .program path => tell (if short then path else name ++ " is " ++ path)
    | .nothing =>
      match d with
      | .bash =>
        if !short then complain (command ++ ": " ++ name ++ ": not found")
        setStatus 1
      | .dash =>
        if !short then tell (name ++ ": not found")
        setStatus 127
    describeEach command short rest

/-- Says of what kind command names are. -/
def classifyEach : List String → ShellM Unit
  | [] => return
  | name :: rest => do
    match ← meaningOf name with
    | .keyword => say "type" "keyword\n"
    | .function => say "type" "function\n"
    | .special | .builtin => say "type" "builtin\n"
    | .program _ => say "type" "file\n"
    | .nothing => setStatus 1
    classifyEach rest

/-- Says where the programs of command names are, even of names with another meaning if so asked. -/
def locateEach (forced : Bool) : List String → ShellM Unit
  | [] => return
  | name :: rest => do
    match ← meaningOf name with
    | .program path => say "type" (path ++ "\n")
    | .nothing => setStatus 1
    | _ =>
      if forced then
        match ← programOf? name with
        | some path => say "type" (path ++ "\n")
        | none => setStatus 1
    locateEach forced rest

/-- Carries out a built-in command, and decides which of its failures go further. -/
def runGuarded (special : Bool) (name : String) (m : ShellM Unit) : ShellM Unit := do
  let d ← dialect
  let place := if d = .dash then name ++ ": " else ""
  let r ← catching (changing
    (fun s => if d = .dash then { s with place } else s)
    (fun before s => { s with place := before.place }) m)
  match r with
  | .error (.abandon status) =>
    if d = .dash ∧ special then throw (.exit status)
    else if d = .bash ∧ (name = "eval" ∨ name = "." ∨ name = "source" ∨ name = "exit") then
      throw (.abandon status)
    else setStatus status
  | r => rethrow r

mutual

/-- Carries out words that have been expanded, without functions if so asked. -/
def runWords (inner : Inner) (position : Position) (functions : Bool) (words : List String)
    (assignments : List (String × Bool × Word)) (redirections : List Redirection) :
    (depth : Nat) → ShellM Unit
  | 0 => return
  | depth + 1 => do
    match words with
    | [] => return
    | name :: arguments =>
      let s ← get
      let special := specialBuiltins.contains name
      let function :=
        if functions ∧ !(special ∧ s.dialect = .dash) then s.functions.lookup name else none
      match function with
      | some (body, origin) =>
        withAssigned inner assignments do
          let _ ← withRedirected inner redirections (runFunction inner name body origin arguments)
      | none =>
        if name = "exec" then runExec inner arguments assignments redirections
        else if isBuiltin s.dialect name then
          let m := runGuarded special name (runBuilt inner name arguments depth)
          let guarded : ShellM Unit := do
            if !(← withRedirected inner redirections m) ∧ special ∧ s.dialect = .dash then
              throw (.exit fatalStatus)
          if special ∧ s.dialect = .dash then
            assignEach inner false assignments
            guarded
          else withAssigned inner assignments guarded
        else runProgram inner position words assignments redirections

/-- Carries out a built-in command. -/
def runBuilt (inner : Inner) (name : String) (arguments : List String) : (depth : Nat) → ShellM Unit
  | 0 => return
  | depth + 1 => do
    match name with
    | "eval" => evalCommand inner arguments
    | "." | "source" => sourceCommand inner name arguments
    | "type" =>
      setStatus 0
      match ← dialect, arguments with
      | .bash, "-t" :: names => classifyEach names
      | .bash, "-p" :: names | .bash, "-P" :: names =>
        locateEach (arguments.head? == some "-P") names
      | .bash, "-a" :: names => describeEach "type" false names
      | _, names => describeEach "type" false names
    | "command" =>
      match arguments with
      | "-v" :: names =>
        setStatus 0
        describeEach "command" true (if (← dialect) = .dash then names.take 1 else names)
      | "-V" :: names =>
        setStatus 0
        describeEach "command" false names
      | words =>
        match if words.head? = some "-p" ∨ words.head? = some "--" then words.drop 1 else words with
        | [] => setStatus 0
        | words =>
          modify fun s => { s with place := "" }
          runWords inner .between false words [] [] depth
    | "builtin" =>
      match arguments.dropWhile (· == "--") with
      | [] => setStatus 0
      | word :: rest =>
        if isBuiltin .bash word then runWords inner .between false (word :: rest) [] [] depth
        else builtinError "builtin" (word ++ ": not a shell builtin") 1
    | name => runBuiltin name arguments

/-- The command `exec`. -/
def runExec (inner : Inner) (arguments : List String) (assignments : List (String × Bool × Word))
    (redirections : List Redirection) : ShellM Unit := do
  let d ← dialect
  match ← redirectAll inner false redirections with
  | none =>
    if d = .dash then throw (.exit fatalStatus)
    setStatus 1
  | some _ =>
    setStatus 0
    assignEach inner true assignments
    let words := if arguments.head? = some "--" then arguments.drop 1 else arguments
    if !words.isEmpty then becomeProgram words true

end

/-- Commands that carry out others are nested at most so deep in one command. -/
def maxWrapped : Nat := 100

/-- Carries out a simple command. -/
def runSimple (inner : Inner) (position : Position) (line : Nat)
    (assignments : List (String × Bool × Word)) (words : List Word)
    (redirections : List Redirection) : ShellM Unit := do
  if (← get).options.noExec then return
  let _ ← ask (.work stepTime)
  atLine line
  modify fun s => { s with outputStatus := 0 }
  runEventTrap inner beforeCommand
  match ← expandWords inner words with
  | [] =>
    assignEach inner false assignments
    traceAssignments assignments
    let status ← getting (·.outputStatus)
    if redirections.isEmpty then setStatus status
    else if ← withRedirected inner redirections (pure ()) then setStatus status
  | words =>
    traceCommand words
    runWords inner position true words assignments redirections maxWrapped
  runTraps inner
  checkStatus inner

/-! ## Pipelines and copies -/

/-- Splits off the commands of a pipeline, each of which reads what the one before writes. -/
def splitPipeline (inner : Inner) : (source : Option Nat) → List Command → ShellM (List Nat)
  | _, [] => return []
  | source, [c] => do
    let pid ← splitOff inner do
      match source with
      | some fd =>
        let _ ← moveTo false fd 0
      | none => pure ()
      inner.run .alone c
    match source with
    | some fd => closeQuietly fd
    | none => pure ()
    return [pid]
  | source, c :: rest => do
    let (reader, writer) : Nat × Nat ← ask .pipe
    let pid ← splitOff inner do
      closeQuietly reader
      match source with
      | some fd =>
        let _ ← moveTo false fd 0
      | none => pure ()
      let _ ← moveTo false writer 1
      inner.run .alone c
    closeQuietly writer
    match source with
    | some fd => closeQuietly fd
    | none => pure ()
    return pid :: (← splitPipeline inner (some reader) rest)

/-- Waits for the commands of a pipeline, and gives how each of them ended. -/
def waitForPipeline : List Nat → ShellM (List (Nat × Ending))
  | [] => return []
  | pid :: rest => do
    let ending ← waitFor pid
    return (pid, ending.getD (.exited 127)) :: (← waitForPipeline rest)

/-- Reports the commands of a pipeline that signals have ended. -/
def reportPipeline (endings : List (Nat × Ending)) : ShellM Unit := do
  let killed := endings.filter fun e => match e.2 with
    | .killed _ => true
    | .exited _ => false
  let reported := if (← dialect) = .dash then killed else killed.take 1
  for (pid, ending) in reported do reportKilled pid ending

/-- Carries out a pipeline. -/
def runPipeline (inner : Inner) (negated : Bool) (commands : List Command) : ShellM Unit := do
  match commands with
  | [] => return
  | [c] =>
    if negated then whileTested (inner.run .between c) else inner.run .between c
  | cs =>
    let pids ← splitPipeline inner none cs
    let endings ← waitForPipeline pids
    reportPipeline endings
    let statuses := endings.map fun e => statusOf e.2
    let last := statuses.getLast?.getD 0
    let failed := (statuses.reverse.find? (· != 0)).getD 0
    setStatus (if (← get).options.pipeFail then failed else last)
    runTraps inner
    if !negated then checkStatus inner
  if negated then modify fun s => { s with status := if s.status = 0 then 1 else 0 }

/-- Carries out a command to which a process has been given.  Its redirections hold up to the end of the
process, so nothing is kept of what they have replaced. -/
def runAlone (inner : Inner) (c : Command) : ShellM Unit := do
  match c with
  | .redirected _ (.subshell _) _ => inner.run .alone c
  | .redirected line body redirections =>
    if line ≠ 0 then atLine line
    match ← redirectAll inner false redirections with
    | none => setStatus (redirectionStatus (← dialect))
    | some _ => inner.run .between body
  | c => inner.run .alone c

/-- Carries out a command in the background. -/
def runBackground (inner : Inner) (c : Command) : ShellM Unit := do
  let pid ← splitOff inner do
    for signal in [2, 3] do
      let _ ← ask (.dispose signal .ignored)
    match ← ask (.openFile "/dev/null" { read := true }) with
    | .ok fd =>
      let _ ← moveTo false fd 0
    | .error _ => pure ()
    runAlone inner c
  modify fun s => { s with lastBackground := some pid, jobs := s.jobs ++ [pid], status := 0 }

/-- Carries out a command in a copy of the shell. -/
def runSubshell (inner : Inner) (position : Position) (body : Command)
    (redirections : List Redirection) : ShellM Unit := do
  let s ← get
  let work : ShellM Unit := do
    match ← redirectAll inner false redirections with
    | none => throw (.exit (redirectionStatus s.dialect))
    | some _ => inner.run .last body
  let inPlace := position = .alone ∨ s.dialect = .dash ∧ position ≠ .between
  if inPlace ∧ s.traps.isEmpty then
    modify fun s => { s with depth := s.depth + 1, loops := 0, jobs := [] }
    work
    throw (.exit (← get).status)
  else
    waitForeground (← splitOff inner work)
    runTraps inner
    checkStatus inner

/-! ## Choices and loops -/

/-- Runs one turn of a loop, and says whether the loop goes on. -/
def loopTurn (m : ShellM Unit) : ShellM Bool := do
  match ← catching m with
  | .ok () => return true
  | .error (.break n) => if n ≤ 1 then return false else throw (.break (n - 1))
  | .error (.continue n) => if n ≤ 1 then return true else throw (.continue (n - 1))
  | .error l => throw l

/-- Runs a step inside a loop. -/
def insideLoop (m : ShellM Unit) : ShellM Unit :=
  changing (fun s => { s with loops := s.loops + 1 })
    (fun before s => { s with loops := before.loops }) m

/-- Repeats a command as long as another one succeeds, or fails; `status` is that of the
last turn. -/
def repeatLoop (inner : Inner) (until_ : Bool) (test body : Command) :
    Nat → (status : Nat) → ShellM Unit
  | 0, status => setStatus status
  | n + 1, status => do
    let _ ← ask (.work stepTime)
    let before ← get
    let goesOn ← loopTurn (whileTested (inner.run .between test))
    let tested ← getting (·.status)
    modify fun s => { s with tested := before.tested }
    if !goesOn then return
    if (tested = 0) = until_ then setStatus status
    else if ← loopTurn (inner.run .between body) then
      repeatLoop inner until_ test body n (← get).status

/-- Carries out a command for each text. -/
def repeatEach (inner : Inner) (name : String) (body : Command) : List String → ShellM Unit
  | [] => return
  | text :: rest => do
    let _ ← ask (.work stepTime)
    assign name text
    if ← loopTurn (inner.run .between body) then repeatEach inner name body rest

/-- Carries out a loop over words. -/
def runForEach (inner : Inner) (line : Nat) (name : String) (words : Option (List Word))
    (body : Command) : ShellM Unit := do
  atLine line
  let texts ← match words with
    | some ws => expandWords inner ws
    | none => getting (·.arguments)
  if !isName name then
    complain ("`" ++ name ++ "': not a valid identifier")
    throw (.abandon 1)
  setStatus 0
  insideLoop (repeatEach inner name body texts)

/-- The value of an expression that has to be expanded first. -/
def expressionValue (inner : Inner) (parts : List Part) : ShellM Int64 := do
  arithmetic (joinSegments (← segmentsOf inner true parts))

/-- Repeats a command as long as an expression is not zero. -/
def repeatCount (inner : Inner) (test step : List Part) (body : Command) : Nat → ShellM Unit
  | 0 => return
  | n + 1 => do
    let _ ← ask (.work stepTime)
    let text := joinSegments (← segmentsOf inner true test)
    let v ← if text.toList.all (· == ' ') then pure 1 else arithmetic text
    if v ≠ 0 then
      if ← loopTurn (inner.run .between body) then
        let _ ← expressionValue inner step
        repeatCount inner test step body n

/-- Carries out the bodies that follow from a choice on. -/
def runChoices (inner : Inner) (position : Position) : List Choice → ShellM Unit
  | [] => return
  | .mk _ body fallThrough :: rest => do
    inner.run (if fallThrough then .between else position) body
    if fallThrough then runChoices inner position rest

/-- Whether a text is what one of some patterns stands for. -/
def matchesSome (inner : Inner) (text : String) : List Word → ShellM Bool
  | [] => return false
  | w :: rest => do
    let pattern ← expandPattern inner w
    if PatternItem.matchesAll pattern text.toList then return true
    matchesSome inner text rest

/-- Carries out the first choice that matches. -/
def runSelect (inner : Inner) (position : Position) (text : String) : List Choice → ShellM Unit
  | [] => setStatus 0
  | .mk patterns body fallThrough :: rest => do
    if ← matchesSome inner text patterns then
      setStatus 0
      runChoices inner position (.mk patterns body fallThrough :: rest)
    else runSelect inner position text rest

/-- Decides a condition of the full shell. -/
def decideCondition (inner : Inner) : Condition → ShellM Bool
  | .unary op w => do
    let text ← expandText inner w
    if op = "-v" then return ((← get).value? text).isSome
    match ← perform (testUnary op text) with
    | .ok b => return b
    | .error _ => return false
  | .binary op left right => do
    let text ← expandText inner left
    if ["=", "==", "!="].contains op then
      let pattern ← expandPattern inner right
      return PatternItem.matchesAll pattern text.toList != (op == "!=")
    let other ← expandText inner right
    if ["-eq", "-ne", "-lt", "-le", "-gt", "-ge"].contains op then
      return compareIntegers op (← arithmetic text).toInt (← arithmetic other).toInt
    match ← perform (testBinary .full op text other) with
    | .ok b => return b
    | .error _ => return false
  | .not c => do return !(← decideCondition inner c)
  | .both a b => do if ← decideCondition inner a then decideCondition inner b else return false
  | .either a b => do if ← decideCondition inner a then return true else decideCondition inner b

/-! ## All commands -/

/-- Carries out a command whose parts are carried out by `inner`. -/
def runCommand (inner : Inner) (position : Position) : Command → ShellM Unit
  | .skip => return
  | .simple line assignments words redirections =>
    runSimple inner position line assignments words redirections
  | .pipeline negated commands => runPipeline inner negated commands
  | .sequence first second => do
    inner.run .between first
    inner.run (if position = .alone then .last else position) second
  | .andThen first second => do
    whileTested (inner.run .between first)
    if (← get).status = 0 then inner.run (if position = .alone then .last else position) second
  | .orElse first second => do
    whileTested (inner.run .between first)
    if (← get).status ≠ 0 then inner.run (if position = .alone then .last else position) second
  | .background c => runBackground inner c
  | .group body => inner.run .between body
  | .subshell body => runSubshell inner position body []
  | .redirected line body redirections => do
    if line ≠ 0 then atLine line
    match body with
    | .subshell body => runSubshell inner position body redirections
    | _ =>
      let _ ← withRedirected inner redirections (inner.run .between body)
      checkStatus inner
  | .cond test yes no => do
    whileTested (inner.run .between test)
    let position := if (← dialect) = .dash then position else .between
    if (← get).status = 0 then inner.run position yes
    else
      if no matches .skip then setStatus 0
      inner.run position no
  | .loop until_ test body => insideLoop (repeatLoop inner until_ test body manyTimes 0)
  | .forEach line name words body => runForEach inner line name words body
  | .forCount start test step body => do
    let text := joinSegments (← segmentsOf inner true start)
    let _ ← arithmetic text
    setStatus 0
    insideLoop (repeatCount inner test step body manyTimes)
  | .select line w choices => do
    atLine line
    let text ← expandText inner w
    runSelect inner (if (← dialect) = .dash then position else .between) text choices
  | .define name body => do
    modify fun s =>
      let origin := s.origin.getD
        (if s.fromArgument then "environment" else if s.fromInput then "main" else s.name)
      { s with functions := (name, body, origin) :: s.functions.filter (·.1 != name), status := 0 }
  | .test line c => do
    atLine line
    let b ← decideCondition inner c
    setStatus (if b then 0 else 1)
    checkStatus inner
  | .compute line expression => do
    atLine line
    let v ← expressionValue inner expression
    setStatus (if v = 0 then 1 else 0)
    checkStatus inner

/-- Carries out commands that are nested at most so deep. -/
def carryOutFor : Nat → Inner
  | 0 => ⟨fun _ _ => throw (.exit 2)⟩
  | n + 1 => ⟨runCommand (carryOutFor n)⟩

/-- Functions call each other at most so deep. -/
def maxCalls : Nat := 5000

/-- Carries out commands. -/
def carryOut : Inner := carryOutFor maxCalls

end Overseer.Shell
