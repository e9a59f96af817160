import Overseer.Shell.Evaluation

/-!
# Starting a shell

A shell is started with commands in an argument, with the name of a file of commands, or with
commands on its standard input.  The full shell carries out first what is in the file that its
environment names for its start.

## Main definitions

* `Invocation`, `readInvocation` — what the arguments of a shell ask for
* `runStartFile` — what the full shell carries out first
* `shellProgram` — a shell as a program
-/

namespace Overseer.Shell

open Overseer.Host Overseer.Os Overseer.Tools

/-- Where a shell gets its commands. -/
inductive Source where
  /-- from an argument -/
  | argument (text : String)
  /-- from a file -/
  | file (path : String)
  /-- from its standard input -/
  | input
  /-- an argument is missing that should give them -/
  | missing
  deriving Inhabited, Repr

/-- What the arguments of a shell ask for. -/
structure Invocation where
  /-- where the commands are -/
  source : Source
  /-- the name of the shell -/
  name : String
  /-- the arguments of the commands -/
  arguments : List String := []
  /-- the options that are set or taken back -/
  options : Options := {}
  deriving Inhabited, Repr

/-- Sets the options of letters that there are. -/
def withLetters (on : Bool) (letters : List Char) (o : Options) : Options :=
  letters.foldl (fun o c => (setOption on c o).getD o) o

/-- What the arguments of a shell ask for, when its name and some options have been read. -/
def readInvocation (name : String) (fromArgument fromInput : Bool) (o : Options) :
    List String → Invocation
  | [] => { source := if fromArgument then .missing else .input, name, options := o }
  | first :: rest =>
    match first.toList with
    | ['-'] | ['-', '-'] => operands rest
    | '-' :: '-' :: _ => readInvocation name fromArgument fromInput o rest
    | '-' :: letters =>
      let fromArgument := fromArgument || letters.contains 'c'
      let fromInput := fromInput || letters.contains 's'
      let o := withLetters true letters o
      if letters.contains 'o' then
        match rest with
        | option :: rest =>
          let o := match optionNames.lookup option with
            | some c => withLetters true [c] o
            | none => { o with pipeFail := o.pipeFail || option == "pipefail" }
          readInvocation name fromArgument fromInput o rest
        | [] => readInvocation name fromArgument fromInput o []
      else readInvocation name fromArgument fromInput o rest
    | '+' :: letters =>
      readInvocation name fromArgument fromInput (withLetters false letters o) rest
    | _ => operands (first :: rest)
where
  /-- What the arguments behind the options mean. -/
  operands (rest : List String) : Invocation :=
    match rest with
    | [] => { source := if fromArgument then .missing else .input, name, options := o }
    | first :: more =>
      if fromArgument then
        { source := .argument first, name := more.headD name, arguments := more.drop 1
          options := o }
      else if fromInput then { source := .input, name, arguments := rest, options := o }
      else { source := .file first, name := first, arguments := more, options := o }

/-- The variables that a shell starts with, given its environment. -/
def startVariables (d : Dialect) (environment : Variables) (numbers : ProcessNumbers)
    (here : String) : List (String × Variable) :=
  let given := environment.reverse.map fun (name, value) =>
    (name, ({ value := some value, exported := true } : Variable))
  let own (name value : String) : String × Variable := (name, { value := some value })
  let level := (((environment.lookup "SHLVL").bind (·.toNat?)).getD 0) + 1
  let always := [own "IFS" " \t\n", own "OPTIND" "1", own "PPID" (toString numbers.parent),
    own "PS4" "+ "]
  let pwd : String × Variable :=
    ("PWD", { value := some here, exported := d == .bash || (environment.lookup "PWD").isSome })
  let more := match d with
    | .bash => [own "BASH" "/bin/bash", own "BASH_VERSION" "5.2.21(1)-release", own "UID" "0",
        own "EUID" "0", own "HOSTNAME" "localhost", own "OSTYPE" "linux-gnu",
        ("SHLVL", { value := some (toString level), exported := true })]
    | .dash => []
  let path := if (environment.lookup "PATH").isNone ∧ d = .bash then
      [own "PATH" "/usr/local/sbin:/usr/local/bin:/usr/sbin:/usr/bin:/sbin:/bin"] else []
  let first := always ++ pwd :: more ++ path
  first ++ given.filter fun (name, _) => isName name && (first.lookup name).isNone

/-- Ends with a message about the commands that a shell should have been given. -/
def noCommands (d : Dialect) (name : String) : Source → Act Nat
  | .missing => do
    let _ ← writeText 2 (match d with
      | .bash => name ++ ": -c: option requires an argument\n"
      | .dash => name ++ ": 0: -c requires an argument\n")
    return 2
  | _ => return 0

/-- Ends with a message about a file of commands that cannot be read. -/
def unreadable (d : Dialect) (name path : String) (e : Errno) : Act Nat := do
  let _ ← writeText 2 (match d with
    | .bash => name ++ ": " ++ path ++ ": " ++ e.text ++ "\n"
    | .dash => name ++ ": 0: cannot open " ++ path ++ ": " ++
        (if e = .noEntry then "No such file" else e.text) ++ "\n")
  return match d with
    | .bash => if e = .noEntry then 127 else 126
    | .dash => 2

/-- Lets the full shell ignore the signal to quit, unless it was ignored before. -/
def ignoreQuit : ShellM Unit := do
  if (← dialect) = .bash then
    let before : Disposition ← ask (.dispose 3 .ignored)
    if before ≠ .ignored then modify fun s => { s with own := [(3, .ignored)] }

/-- The variable that names a file for the start of the full shell. -/
def startFileVariable : String := "BASH_ENV"

/-- Expands a text as if it stood in weak quotes; a text that cannot be read expands to nothing. -/
def expandSetting (text : String) : ShellM String := do
  let parts := (nesting (← dialect) maxNesting).parts .wholly
  match parts.run { rest := text.toList, line := 1 } with
  | .ok (parts, _) => expandText carryOut [.weak parts]
  | .error _ => return ""

/-- Lets the full shell carry out the file that is there for its start.  That there is no such file
does not matter. -/
def runStartFile (environment : Variables) : ShellM Unit := do
  match ← dialect, environment.lookup startFileVariable with
  | .bash, some setting =>
    let path ← expandSetting setting
    match ← readScript path with
    | .ok text => runSourced carryOut path [] text
    | .error .noEntry => return
    | .error e =>
      let text := if e = .isDirectory then "is a directory" else e.text
      complainPlainly ((← get).name ++ ": " ++ path ++ ": " ++ text)
  | _, _ => return

/-- Runs a shell to its end: what comes first, and then the commands of a text. -/
def runShell (shell : Session) (first : ShellM Unit) (position : Position) (text : String) : Act Nat :=
  let text := String.ofList (text.toList.filter (· != '\x00'))
  toEnd carryOut
    (do
      ignoreQuit
      first
      runText carryOut position (shell.dialect == .bash) text 1) shell

/-- A shell as a program. -/
def shellProgram (d : Dialect) (arguments : List String) (environment : Variables) : Program :=
  Act.program do
    let own := arguments.headD "sh"
    let i := readInvocation own false false {} (arguments.drop 1)
    let numbers ← Act.call .numbers
    let here ← Act.call .here
    let shell : Session := {
      dialect := d, name := i.name, arguments := i.arguments, options := i.options
      bindings := startVariables d environment numbers here, pid := numbers.pid, directory := here
      fromArgument := match i.source with
        | .argument _ => true
        | _ => false
      fromInput := match i.source with
        | .input => true
        | _ => false }
    let first := runStartFile environment
    match i.source with
    | .argument text => runShell shell first (if d = .dash then .between else .last) text
    | .file path =>
      match ← Act.call (.openFile path { read := true }) with
      | .error e => unreadable d own path e
      | .ok fd =>
        let bytes ← readAll fd
        let _ ← Act.call (.close fd)
        match bytes with
        | .ok bytes => runShell shell first .between (octets bytes)
        | .error e => if d = .bash then unreadable d own path e else return 0
    | .input =>
      let bytes ← readAll 0
      runShell shell first .between (octets (bytes.toOption.getD .empty))
    | .missing => noCommands d own i.source

end Overseer.Shell
