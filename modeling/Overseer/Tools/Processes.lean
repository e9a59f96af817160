import Overseer.Tools.Console
import Overseer.Tools.Echo
import Overseer.Tools.Files
import Overseer.Tools.Printf
import Overseer.Tools.Test

/-!
# Tools for processes

Tools that wait, start programs, send signals, or say something about the process that runs them.

## Main definitions

* `sleep`, `kill` — time and signals
* `env`, `nohup`, `setsid`, `timeout`, `xargs` — tools that start programs
* `testTool`, `echoTool`, `printfTool`, `printenv`, … — tools that shells have built in as well
-/

namespace Overseer.Tools

open Overseer.Host Overseer.Os

/-! ## Time and signals -/

/-- The nanoseconds that a text with a unit stands for; nothing for endless time. -/
def nanosecondsOf? (text : String) : Option (Option Nat) :=
  if text = "infinity" ∨ text = "inf" then some none
  else
    let chars := text.toList
    let (digits, unit) := match chars.getLast? with
      | some 's' => (chars.dropLast, 1)
      | some 'm' => (chars.dropLast, 60)
      | some 'h' => (chars.dropLast, 3600)
      | some 'd' => (chars.dropLast, 86400)
      | _ => (chars, 1)
    let (d, fault) := decimalArgument (String.ofList digits)
    if digits.isEmpty ∨ fault ≠ .none ∨ (d.negative ∧ d.digits ≠ 0) then none
    else some (some (scaled (d.digits * unit) (d.exponent + 9)))

/-- Sleeps again after each signal. -/
def sleepFor : Nat → Nat → Act Unit
  | 0, _ => return
  | n + 1, nanoseconds => do
    match ← Act.call (.sleep nanoseconds) with
    | .ok () => return
    | .error _ => sleepFor n nanoseconds

/-- A time that nobody waits for. -/
def endless : Nat := 1000000000000000000000000000000

/-- Does nothing for a time. -/
def sleep : Tool := fun arguments _ => do
  let name := arguments.headD ""
  let words := (arguments.drop 1).filter (· != "--")
  let option? := words.findSome? fun w => match w.toList with
    | '-' :: c :: _ => some c
    | _ => none
  if let some c := option? then usageError name ("invalid option -- '" ++ c.toString ++ "'") 1
  else if words.isEmpty then usageError name "missing operand" 1
  else match words.find? fun w => (nanosecondsOf? w).isNone with
    | some bad => usageError name ("invalid time interval " ++ quotedArgument bad) 1
    | none => do
      let times := words.filterMap nanosecondsOf?
      let total := if times.any (·.isNone) then endless else (times.filterMap id).foldl (· + ·) 0
      sleepFor manyTimes total
      return 0

/-- The signal that a text names. -/
def signalNamed? (text : String) : Option Signal :=
  match text.toNat? with
  | some n => if n ≤ maxSignal then some n else none
  | none => if text = "EXIT" then some 0 else signalOfName? text

/-- Sends signals. -/
def kill : Tool := fun arguments _ => do
  let name := arguments.headD ""
  let send (signal : Signal) (targets : List String) : Act Nat :=
    if targets.isEmpty then usageError name "not enough arguments" 1
    else eachOf (fun target => do
      match integerOf? target with
      | none => do
        report name ("failed to parse argument: '" ++ target ++ "'")
        return 1
      | some pid =>
        match ← Act.call (.kill pid signal) with
        | .ok () => return 0
        | .error e => do
          report name ("sending signal to " ++ target ++ " failed: " ++ e.text)
          return 1) targets 0
  let named (text : String) (targets : List String) : Act Nat :=
    match signalNamed? text with
    | some signal => send signal targets
    | none => usageError name ("invalid signal name or number: " ++ text) 1
  match arguments.drop 1 with
  | "-l" :: [] => say name (unlines (signalNames.map (·.1))) 0
  | "-l" :: words => say name (unlines (words.map fun w =>
      match w.toNat? with
      | some n => signalName (n % 128)
      | none => toString ((signalOfName? w).getD 0))) 0
  | "-s" :: text :: targets => named text targets
  | "--" :: targets => send Signal.term targets
  | first :: targets =>
    match first.toList with
    | '-' :: c :: rest => named (String.ofList (c :: rest)) (targets.filter (· != "--"))
    | _ => send Signal.term (first :: targets)
  | [] => usageError name "not enough arguments" 1

/-! ## Starting programs -/

/-- Becomes another program, searched for in the directories of the environment, and gives the
reason why that does not work. -/
def becomeNamed (words : List String) (environment : Variables) : Act Errno := do
  let program := words.headD ""
  let paths := if program.isEmpty then [] else if program.toList.contains '/' then [program]
    else (((environment.lookup "PATH").getD "/bin:/usr/bin").toList.splitOn ':').map fun dir =>
      joinPath (String.ofList dir) program
  let rec attempt : Errno → List String → Act Errno
    | reason, [] => return reason
    | reason, path :: rest => do
      let e : Errno ← Act.call (.become path words environment)
      if e = .notExecutable then
        let _ : Errno ← Act.call (.become "/bin/sh" ("/bin/sh" :: path :: words.drop 1) environment)
      attempt (if e = .noEntry ∨ e = .notDirectory then reason else e) rest
  attempt .noEntry paths

/-- Becomes another program; otherwise reports why the one so described did not start, and gives the
exit code. -/
def becomeOr (name described : String) (words : List String) (environment : Variables) :
    Act Nat := do
  let e ← becomeNamed words environment
  report name (described ++ ": " ++ e.text)
  return if e = .noEntry then 127 else 126

/-- Sets or takes away variables as words ask for, and gives the words behind them. -/
def changedEnvironment : List String → Variables → Variables × List String
  | [], environment => (environment, [])
  | word :: rest, environment =>
    if word.toList.contains '=' then
      let name := String.ofList (word.toList.takeWhile (· != '='))
      let value := String.ofList (word.toList.drop (name.length + 1))
      changedEnvironment rest (environment.filter (·.1 != name) ++ [(name, value)])
    else (environment, word :: rest)

/-- Starts a program in a changed environment, or shows the environment. -/
def env : Tool := fun arguments environment =>
  withOptions
    { flags := "i0v", valued := "uC", long := [("ignore-environment", 'i'), ("unset", 'u')]
      anywhere := false } 125 arguments fun name s => do
      let start : Variables := if s.has 'i' ∨ s.operands.head? = some "-" then [] else environment
      let gone := s.options.filterMap fun (c, v) => if c = 'u' then v else none
      let start := start.filter fun e => !gone.contains e.1
      let words := if s.operands.head? = some "-" then s.operands.drop 1 else s.operands
      let (environment, words) := changedEnvironment words start
      if words.isEmpty then
        say name (String.join (environment.map fun (n, v) =>
          n ++ "=" ++ v ++ if s.has '0' then "\x00" else "\n")) 0
      else
        let program := words.headD ""
        let code ← becomeOr name (quotedArgument program) words environment
        if code = 127 ∧ program.toList.any fun c => c == ' ' || ('\t' ≤ c && c ≤ '\r') then
          report name "use -[v]S to pass options in shebang lines"
        return code

/-- Starts a program that does not care when its terminal goes away. -/
def nohup : Tool := fun arguments environment => do
  let name := arguments.headD ""
  if (arguments.drop 1).isEmpty then return ← usageError name "missing operand" 125
  let _ ← Act.call (.dispose 1 .ignored)
  let words := arguments.drop 1
  becomeOr name ("failed to run command " ++ quotedName (words.headD "")) words environment

/-- Starts a program that leads a session of its own. -/
def setsid : Tool := fun arguments environment =>
  withOptions { flags := "cfw", anywhere := false } 1 arguments fun name s => do
    if s.operands.isEmpty then
      report name "no command specified"
      return 1
    let run : Act Nat := do
      let _ ← Act.call .newSession
      becomeOr name ("failed to execute " ++ s.operands.headD "") s.operands environment
    let numbers ← Act.call .numbers
    if numbers.pid = numbers.group ∨ s.has 'f' then
      let pid ← Act.fork (Act.program run)
      if s.has 'w' then
        match ← Act.call (.wait pid true) with
        | .ok (some (_, .exited code)) => return code
        | .ok (some (_, .killed signal)) => return 128 + signal
        | _ => return 1
      else return 0
    else run

/-- Waits for a child and says how it ended. -/
def endingOf (pid : Nat) : Nat → Act Ending
  | 0 => return .exited 1
  | n + 1 => do
    match ← Act.call (.wait pid true) with
    | .ok (some (_, ending)) => return ending
    | .error .interrupted => endingOf pid n
    | _ => return .exited 1

/-- Starts a program and ends it when its time is up. -/
def timeout : Tool := fun arguments environment =>
  withOptions
    { flags := "fpv", valued := "sk"
      long := [("signal", 's'), ("kill-after", 'k'), ("foreground", 'f'), ("preserve-status", 'p')]
      anywhere := false } 125 arguments fun name s => do
      match s.operands with
      | [] | [_] => usageError name "missing operand" 125
      | time :: words =>
        match nanosecondsOf? time with
        | none => usageError name ("invalid time interval " ++ quotedArgument time) 125
        | some limit => do
          let signal := ((s.value? 's').bind signalNamed?).getD Signal.term
          let start : Nat ← Act.call .clock
          let _ ← Act.call (.setGroup 0 0)
          let described := "failed to run command " ++ quotedArgument (words.headD "")
          let pid ← Act.fork (Act.program (becomeOr name described words environment))
          let watch ← Act.fork (Act.program do
            sleepFor manyTimes (limit.getD endless)
            let _ ← Act.call (.kill pid signal)
            let _ ← Act.call (.dispose signal .ignored)
            let _ ← Act.call (.kill 0 signal)
            match (s.value? 'k').bind nanosecondsOf? with
            | some (some more) => do
              sleepFor manyTimes more
              let _ ← Act.call (.kill pid Signal.kill)
              return 0
            | _ => return 0)
          let _ ← Act.call (.dispose signal .ignored)
          let ending ← endingOf pid manyTimes
          let stop : Nat ← Act.call .clock
          let _ ← Act.call (.kill watch Signal.kill)
          let _ ← endingOf watch manyTimes
          let late := limit.any fun l => l != 0 && start + l ≤ stop
          match ending with
          | .exited code => return if late ∧ !s.has 'p' then 124 else code
          | .killed sig =>
            if sig = Signal.kill ∧ late then
              let _ ← Act.call (.kill 0 Signal.kill)
            return if late ∧ !s.has 'p' then 124 else 128 + sig

/-- The words of a text; quotes and backslashes keep blanks together. -/
def wordsOf : List Char → (word : Option (List Char)) → (quote : Option Char) → List String
  | [], word, _ => (word.map fun w => String.ofList w.reverse).toList
  | '\\' :: c :: rest, word, none => wordsOf rest (some (c :: word.getD [])) none
  | c :: rest, word, some q =>
    if c = q then wordsOf rest word none else wordsOf rest (some (c :: word.getD [])) (some q)
  | c :: rest, word, none =>
    if c = '\'' ∨ c = '"' then wordsOf rest (some (word.getD [])) (some c)
    else if c = ' ' ∨ c = '\n' ∨ c = '\t' then
      (word.map fun w => String.ofList w.reverse).toList ++ wordsOf rest none none
    else wordsOf rest (some (c :: word.getD [])) none

/-- A list in pieces of a length, at most so many. -/
def pieces {α : Type} (length : Nat) : Nat → List α → List (List α)
  | 0, _ => []
  | n + 1, list =>
    if list.isEmpty then [] else list.take length :: pieces length n (list.drop length)

/-- Starts a program with the words that are read as its arguments. -/
def xargs : Tool := fun arguments environment =>
  withOptions { flags := "0rtx", valued := "nIdLPs", anywhere := false }
    1 arguments fun name s => do
    match ← readAll 0 with
    | .error e => do
      report name e.text
      return 1
    | .ok bytes => do
      let text := octets bytes
      let words := if s.has '0' then (text.splitOn "\x00").filter (!·.isEmpty)
        else if s.has 'I' then (linesOf text).map fun l =>
          String.ofList (l.toList.dropWhile fun c => c == ' ' || c == '\t')
        else wordsOf text.toList none none
      let command := if s.operands.isEmpty then ["echo"] else s.operands
      let runs := match s.value? 'I' with
        | some mark => words.map fun w => command.map fun c => c.replace mark w
        | none =>
          let size := ((s.value? 'n').bind (·.toNat?)).getD 5000
          let groups := pieces size words.length words
          let groups := if groups.isEmpty ∧ !s.has 'r' then [[]] else groups
          groups.map (command ++ ·)
      eachOf (fun run => do
        let pid ← Act.fork (Act.program (do
          let e ← becomeNamed run environment
          report name (run.headD "" ++ ": " ++ e.text)
          return if e = .noEntry then 127 else 126))
        match ← endingOf pid manyTimes with
        | .exited 0 => return 0
        | .exited 255 => do
          report name (run.headD "" ++ ": exited with status 255; aborting")
          return 124
        | .exited 127 => return 127
        | .exited 126 => return 126
        | .exited _ => return 123
        | .killed signal => do
          report name (run.headD "" ++ ": terminated by signal " ++ toString signal)
          return 125) runs 0

/-! ## Small tools -/

/-- Does nothing, successfully. -/
def trueTool : Tool := fun _ _ => return 0

/-- Does nothing, unsuccessfully. -/
def falseTool : Tool := fun _ _ => return 1

/-- Writes its arguments. -/
def echoTool : Tool := fun arguments _ =>
  say (arguments.headD "") (echoText .tool (arguments.drop 1)) 0

/-- Shows reports. -/
def reportAll (name : String) : List String → Act Unit
  | [] => return
  | r :: rest => do
    report name r
    reportAll name rest

/-- Writes its arguments as a format asks for. -/
def printfTool : Tool := fun arguments _ => do
  let name := arguments.headD ""
  let words := if (arguments.drop 1).head? = some "--" then arguments.drop 2 else arguments.drop 1
  match words with
  | [] => usageError name "missing operand" 1
  | format :: rest => do
    let p := printFormat .tool format rest
    let unused := p.arguments.length = rest.length ∧ !rest.isEmpty ∧ !p.stopped
    reportAll name p.reports.reverse
    if unused then
      report name
        ("warning: ignoring excess arguments, starting with " ++ quotedArgument (rest.headD ""))
    say name p.text (if p.failed then 1 else 0)

/-- Decides a condition. -/
def testTool (bracket : Bool) : Tool := fun arguments _ => do
  let name := arguments.headD ""
  let words := arguments.drop 1
  if bracket ∧ words.getLast? ≠ some "]" then
    report name "missing ']'"
    return 2
  match ← testArguments .tool (if bracket then words.dropLast else words) with
  | .ok b => return if b then 0 else 1
  | .error message => do
    report name message
    return 2

/-- The paths at which a program of a name is, among some directories. -/
def programPaths (name : String) (directories : List String) : Act (List String) := do
  let paths := if name.toList.contains '/' then [name] else directories.map (joinPath · name)
  paths.filterM fun path => do
    match ← testUnary "-x" path, ← testUnary "-d" path with
    | .ok true, .ok false => return true
    | _, _ => return false

/-- Shows where programs are. -/
def which : Tool := fun arguments environment => do
  let all := arguments.contains "-a"
  let names := (arguments.drop 1).filter (· != "-a")
  let directories := (((environment.lookup "PATH").getD "").splitOn ":").map fun dir =>
    if dir.isEmpty then "." else dir
  if names.isEmpty then return 1
  eachOf (fun name => do
    let paths ← programPaths name directories
    if paths.isEmpty then return 1
    say "which" (unlines (if all then paths else paths.take 1)) 0) names 0

/-- Says which terminal its input is. -/
def tty : Tool := fun arguments _ =>
  withOptions { flags := "s" } 2 arguments fun name s =>
    match s.operands with
    | extra :: _ => usageError name ("extra operand " ++ quotedArgument extra) 2
    | [] => say name (if s.has 's' then "" else "not a tty\n") 1

/-- Shows variables of the environment. -/
def printenv : Tool := fun arguments environment => do
  let name := arguments.headD ""
  match (arguments.drop 1).filter (!·.startsWith "-") with
  | [] => say name (unlines (environment.map fun (n, v) => n ++ "=" ++ v)) 0
  | names =>
    let values := names.filterMap fun n => environment.lookup n
    say name (unlines values) (if values.length = names.length then 0 else 1)

/-- Writes the directory that it runs in. -/
def pwdTool : Tool := fun arguments _ =>
  withOptions { flags := "LP", long := [("logical", 'L'), ("physical", 'P')] } 1 arguments
    fun name s => do
      if !s.operands.isEmpty then report name "ignoring non-option arguments"
      let here : String ← Act.call .here
      say name (here ++ "\n") 0

/-- Writes a text that never changes. -/
def fixed (text : String) : Tool := fun arguments _ => say (arguments.headD "") (text ++ "\n") 0

/-- Says who runs it. -/
def idTool : Tool := fun arguments _ =>
  let options := arguments.drop 1
  let text := if options.any fun o => o == "-un" || o == "-nu" || o == "-gn" then "root"
    else if options.any fun o => o == "-u" || o == "-g" || o == "-G" then "0"
    else "uid=0(root) gid=0(root) groups=0(root)"
  say (arguments.headD "") (text ++ "\n") 0

/-- Describes the system. -/
def uname : Tool := fun arguments _ =>
  let letters := (arguments.drop 1).flatMap (·.toList)
  let text := if letters.contains 'r' then "6.1.0" else if letters.contains 'm' then "x86_64"
    else if letters.contains 'n' then "localhost" else "Linux"
  say (arguments.headD "") (text ++ "\n") 0

/-- Reads and writes in blocks. -/
def dd : Tool := fun arguments _ => do
  let name := arguments.headD ""
  let known := ["if", "of", "bs", "ibs", "obs", "cbs", "count", "skip", "seek", "conv", "iflag",
    "oflag", "status"]
  let settings := (arguments.drop 1).map fun a =>
    let key := a.toList.takeWhile (· != '=')
    (a, String.ofList key, String.ofList (a.toList.drop (key.length + 1)))
  if let some (a, _) := settings.find? fun (a, k, _) => !known.contains k || a == k then
    return ← usageError name ("unrecognized operand " ++ quotedName a) 1
  let settings := settings.map (·.2)
  if let some (_, v) := settings.find? fun (k, v) =>
      ["bs", "count"].contains k && (sizeOf? v).isNone then
    report name ("invalid number: " ++ quotedArgument v)
    return 1
  let size := ((settings.lookup "bs").bind sizeOf?).getD 512
  let count := (settings.lookup "count").bind sizeOf?
  let source ← match settings.lookup "if" with
    | none => pure (.ok 0)
    | some path => Act.call (.openFile path { read := true })
  let target ← match settings.lookup "of" with
    | none => pure (.ok 1)
    | some path => Act.call (.openFile path { write := true, create := true, truncate := true })
  match source, target with
  | .error e, _ => do
    report name ("failed to open " ++ quotedName ((settings.lookup "if").getD "") ++ ": " ++ e.text)
    return 1
  | _, .error e => do
    report name ("failed to open " ++ quotedName ((settings.lookup "of").getD "") ++ ": " ++ e.text)
    return 1
  | .ok input, .ok output => do
    let rec go : Nat → (left : Option Nat) → (whole part : Nat) → Act (Nat × Nat)
      | 0, _, whole, part => return (whole, part)
      | n + 1, left, whole, part => do
        if left = some 0 then return (whole, part)
        match ← Act.call (.read input size) with
        | .ok bytes =>
          if bytes.isEmpty then return (whole, part)
          match ← writeAll output bytes with
          | .ok () =>
            let full := bytes.size = size
            if full then go n (left.map (· - 1)) (whole + 1) part
            else go n (left.map (· - 1)) whole (part + 1)
          | .error _ => return (whole, part)
        | .error _ => return (whole, part)
    let (whole, part) ← go manyTimes count 0 0
    if settings.lookup "status" ≠ some "none" then
      let records := toString whole ++ "+" ++ toString part
      let _ ← writeText 2 (records ++ " records in\n" ++ records ++ " records out\n")
    return 0

end Overseer.Tools
