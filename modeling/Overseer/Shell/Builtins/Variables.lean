import Overseer.Shell.Builtins.Basic

/-!
# Built-in commands for variables

## Main definitions

* `markCommand`, `localCommand`, `declareCommand`, `unsetCommand` — variables and what is kept about
  them
* `readCommand` — variables that are read
-/

namespace Overseer.Shell

open Overseer.Host Overseer.Os Overseer.Tools

/-- A value as the listing of variables shows it. -/
def shownValue (d : Dialect) (value : String) : String :=
  match d with
  | .bash =>
    if value.toList.all hasShape then
      "\"" ++ String.join (value.toList.map fun c =>
        if "\"\\$`".toList.contains c then "\\" ++ c.toString else c.toString) ++ "\""
    else legible value
  | .dash => singleQuoted d value

/-- Lists the variables that satisfy a condition. -/
def listVariables (name letters : String) (condition : Variable → Bool) : ShellM Unit := do
  let s ← get
  let chosen := (s.bindings.filter fun e => condition e.2).mergeSort fun a b => decide (a.1 ≤ b.1)
  let head := match s.dialect with
    | .bash => "declare -" ++ letters ++ " "
    | .dash => name ++ " "
  succeedWith name (String.join (chosen.map fun (n, v) =>
    head ++ n ++ (match v.value with
      | some value => "=" ++ shownValue s.dialect value
      | none => "") ++ "\n"))

/-- A name and a value in one argument. -/
def splitAssignment (argument : String) : String × Option String :=
  let name := argument.toList.takeWhile (· != '=')
  if name.length = argument.length then (argument, none)
  else (String.ofList name, some (String.ofList (argument.toList.drop (name.length + 1))))

/-- Changes the variables that arguments name, and gives them the values that stand there. -/
def changeVariables (command : String) (change : Variable → Variable) : List String → ShellM Unit
  | [] => return
  | argument :: rest => do
    let (name, value) := splitAssignment argument
    if !isName name then
      match ← dialect with
      | .bash => builtinError command ("`" ++ argument ++ "': not a valid identifier") 1
      | .dash => builtinFail command (name ++ ": bad variable name") 2
    else
      match value with
      | some v => assign name v
      | none => pure ()
      modify fun s => s.setVariable name (change ((s.binding? name).getD {}))
    changeVariables command change rest

/-- The commands `export` and `readonly`. -/
def markCommand (name letters : String) (condition : Variable → Bool) (change : Variable → Variable)
    (arguments : List String) : ShellM Unit := do
  let d ← dialect
  let arguments := arguments.filter fun a => a != "-p" && a != "--"
  match (arguments.headD "").toList with
  | '-' :: c :: _ =>
    match d with
    | .bash =>
      builtinError name ("-" ++ c.toString ++ ": invalid option") 2
      complainPlainly (name ++ ": usage: " ++ name ++
        (if name = "export" then " [-fn] [name[=value] ...] or export -p"
        else " [-aAf] [name[=value] ...] or readonly -p"))
      return
    | .dash => builtinFail name ("Illegal option -" ++ c.toString) 2
  | _ => pure ()
  if arguments.isEmpty then listVariables name letters condition
  else
    setStatus 0
    changeVariables name change arguments

/-- Hides variables until the function ends. -/
def hideVariables : List String → ShellM Unit
  | [] => return
  | argument :: rest => do
    let (name, value) := splitAssignment argument
    modify fun s =>
      match s.hidden with
      | [] => s
      | scope :: others =>
        let scope := if (scope.lookup name).isSome then scope else (name, s.binding? name) :: scope
        let s := { s with hidden := scope :: others }
        match value with
        | some v => (s.setVariable name { ((s.binding? name).getD {}) with value := some v })
        | none => if s.dialect = .bash then s.dropVariable name else s
    hideVariables rest

/-- The command `local`. -/
def localCommand (arguments : List String) : ShellM Unit := do
  let s ← get
  if s.calls = 0 then
    match s.dialect with
    | .bash => builtinError "local" "can only be used in a function" 1
    | .dash => builtinFail "local" "not in a function" 2
  else
    hideVariables (arguments.filter fun a => !a.startsWith "-")
    setStatus 0

/-- The command `declare`. -/
def declareCommand (arguments : List String) : ShellM Unit := do
  let options := arguments.takeWhile (·.startsWith "-")
  let names := arguments.drop options.length
  let has (c : Char) : Bool := options.any (·.toList.contains c)
  if (← get).calls ≠ 0 ∧ !has 'g' then hideVariables names
  setStatus 0
  changeVariables "declare" (fun v =>
    { v with exported := v.exported || has 'x', fixed := v.fixed || has 'r' }) names

/-- Takes the variables or functions away that arguments name. -/
def unsetEach (functions : Bool) : List String → ShellM Unit
  | [] => return
  | name :: rest => do
    let s ← get
    if functions then
      modify fun s => { s with functions := s.functions.filter (·.1 != name) }
    else if (s.binding? name).any (·.fixed) then
      match s.dialect with
      | .bash => builtinError "unset" (name ++ ": cannot unset: readonly variable") 1
      | .dash => builtinFail "unset" (name ++ ": is read only") 2
    else if (s.binding? name).isNone ∧ s.dialect = .bash then
      modify fun s => { s with functions := s.functions.filter (·.1 != name) }
    else modify (·.dropVariable name)
    unsetEach functions rest

/-- The command `unset`. -/
def unsetCommand (arguments : List String) : ShellM Unit := do
  setStatus 0
  match arguments with
  | "-f" :: names => unsetEach true names
  | "-v" :: names => unsetEach false names
  | names => unsetEach false names

/-! ## Reading -/

/-- Reads a line byte by byte: its characters, those behind a backslash marked, and whether it was
complete.  At most so many bytes are read. -/
def readLineFor (raw : Bool) : Nat → Marked → Act (Marked × Bool)
  | 0, sofar => return (sofar.reverse, false)
  | n + 1, sofar => do
    match ← Act.call (.read 0 1) with
    | .error .interrupted => readLineFor raw n sofar
    | .error _ => return (sofar.reverse, false)
    | .ok bytes =>
      match (octets bytes).toList with
      | [] => return (sofar.reverse, false)
      | c :: _ =>
        if c = '\n' then return (sofar.reverse, true)
        else if c = '\x00' then readLineFor raw n sofar
        else if c = '\\' ∧ !raw then
          match ← Act.call (.read 0 1) with
          | .error _ => return (sofar.reverse, false)
          | .ok bytes =>
            match (octets bytes).toList with
            | [] => return (sofar.reverse, false)
            | e :: _ => readLineFor raw n (if e = '\n' then sofar else (e, true) :: sofar)
        else readLineFor raw n ((c, false) :: sofar)

/-- Whether a character separates values. -/
def separates (separators : String) (blank : Bool) (c : Char × Bool) : Bool :=
  !c.2 && separators.toList.contains c.1 && (" \t\n".toList.contains c.1 == blank)

/-- Distributes a line over so many variables; the last one takes the rest. -/
def distribute (separators : String) : Nat → Marked → List String
  | 0, _ => []
  | n + 1, line =>
    let line := line.dropWhile (separates separators true)
    if n = 0 then
      [textOf (line.reverse.dropWhile (separates separators true)).reverse]
    else
      let value := line.takeWhile fun c =>
        !separates separators true c && !separates separators false c
      let rest := (line.drop value.length).dropWhile (separates separators true)
      let rest := match rest with
        | c :: more => if separates separators false c then more else rest
        | [] => []
      textOf value :: distribute separators n rest

/-- Gives values to variables one by one. -/
def assignAll : List String → List String → ShellM Unit
  | name :: names, values => do
    assign name (values.headD "")
    assignAll names (values.drop 1)
  | [], _ => return

/-- The command `read`. -/
def readCommand (arguments : List String) : ShellM Unit := do
  let options := arguments.takeWhile fun a => a.startsWith "-" && a.length > 1
  let raw := options.any (·.toList.contains 'r')
  let names := arguments.drop options.length
  let s ← get
  match names.find? (!isName ·) with
  | some bad =>
    match s.dialect with
    | .bash => builtinError "read" ("`" ++ bad ++ "': not a valid identifier") 1
    | .dash => builtinError "read" (bad ++ ": bad variable name") 2
  | none =>
    if names.isEmpty ∧ s.dialect = .dash then builtinError "read" "arg count" 2
    else
      let (line, complete) ← perform (readLineFor raw manyTimes [])
      if names.isEmpty then assign "REPLY" (textOf line)
      else assignAll names (distribute s.separators names.length line)
      setStatus (if complete then 0 else 1)

end Overseer.Shell
