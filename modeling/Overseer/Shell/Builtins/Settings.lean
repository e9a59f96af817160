import Overseer.Shell.Builtins.Variables

/-!
# Built-in commands for the shell itself

## Main definitions

* `setCommand`, `shiftCommand` — options and arguments
* `exitCommand`, `returnCommand`, `leaveLoop` — ways to leave
* `umaskCommand`, `getoptsCommand`, `letCommand` — the rest
-/

namespace Overseer.Shell

open Overseer.Host Overseer.Os Overseer.Tools

/-- The option of a letter. -/
def setOption (on : Bool) (c : Char) (o : Options) : Option Options :=
  match c with
  | 'a' => some { o with allExport := on }
  | 'e' => some { o with errExit := on }
  | 'f' => some { o with noGlob := on }
  | 'n' => some { o with noExec := on }
  | 'u' => some { o with noUnset := on }
  | 'x' => some { o with trace := on }
  | 'C' => some { o with noClobber := on }
  | 'b' | 'h' | 'k' | 'm' | 'v' | 'B' | 'E' | 'H' | 'P' | 'T' | 'i' | 'I' => some o
  | _ => none

/-- The letters of the options that have names. -/
def optionNames : List (String × Char) :=
  [("allexport", 'a'), ("errexit", 'e'), ("noglob", 'f'), ("noexec", 'n'), ("nounset", 'u'),
    ("xtrace", 'x'), ("noclobber", 'C'), ("verbose", 'v'), ("monitor", 'm'), ("notify", 'b'),
    ("ignoreeof", 'h'), ("posix", 'h'), ("hashall", 'h'), ("braceexpand", 'B')]

/-- Sets the options of letters. -/
def setLetters (on : Bool) : List Char → ShellM Bool
  | [] => return true
  | c :: rest => do
    match setOption on c (← get).options with
    | some options =>
      modify fun s => { s with options }
      setLetters on rest
    | none =>
      match ← dialect with
      | .bash =>
        builtinError "set" ((if on then "-" else "+") ++ c.toString ++ ": invalid option") 2
        complainPlainly
          "set: usage: set [-abefhkmnptuvxBCEHPT] [-o option-name] [--] [-] [arg ...]"
        return false
      | .dash => builtinFail "set" ("Illegal option -" ++ c.toString) 2

/-- Sets the option of a name. -/
def setNamed (on : Bool) (name : String) : ShellM Unit := do
  let d ← dialect
  if name = "pipefail" ∧ d = .bash then
    modify fun s => { s with options := { s.options with pipeFail := on } }
  else match optionNames.lookup name with
    | some c =>
      let _ ← setLetters on [c]
    | none =>
      match d with
      | .bash => builtinError "set" (name ++ ": invalid option name") 2
      | .dash => builtinFail "set" ("Illegal option -o " ++ name) 2

/-- The command `set`. -/
def setCommand : List String → ShellM Unit
  | [] => return
  | "--" :: rest => modify fun s => { s with arguments := rest }
  | first :: rest => do
    match first.toList with
    | '-' :: 'o' :: [] =>
      match rest with
      | [] => return
      | name :: rest => do
        setNamed true name
        setCommand rest
    | '+' :: 'o' :: [] =>
      match rest with
      | [] => return
      | name :: rest => do
        setNamed false name
        setCommand rest
    | '-' :: c :: letters =>
      if (c :: letters).contains 'o' then
        match rest with
        | name :: rest => do
          let _ ← setLetters true ((c :: letters).filter (· != 'o'))
          setNamed true name
          setCommand rest
        | [] => return
      else if ← setLetters true (c :: letters) then setCommand rest
    | '+' :: c :: letters => if ← setLetters false (c :: letters) then setCommand rest
    | ['-'] => if !rest.isEmpty then modify fun s => { s with arguments := rest }
    | _ => modify fun s => { s with arguments := first :: rest }

/-- Numbers in arguments of the plain shell stay below this. -/
def plainBound : Int := 2147483648

/-- The number that an argument of the plain shell is. -/
def plainNumber (name text : String) : ShellM Nat := do
  match (integerOf? text).filter fun n => 0 ≤ n ∧ n < plainBound with
  | some n => return n.toNat
  | none => builtinFail name ("Illegal number: " ++ text) 2

/-- A count that an argument gives. -/
def countOf (name : String) (arguments : List String) : ShellM Int := do
  match ← dialect, arguments with
  | _, [] | .bash, ["--"] => return 1
  | .dash, text :: _ => return Int.ofNat (← plainNumber name text)
  | .bash, "--" :: text :: _ | .bash, text :: _ =>
    match wordOf? text with
    | some n => return n
    | none =>
      builtinFail name (text ++ ": numeric argument required") (if name = "shift" then 1 else 128)

/-- The command `shift`. -/
def shiftCommand (arguments : List String) : ShellM Unit := do
  let n ← countOf "shift" arguments
  let s ← get
  if n < 0 then
    builtinError "shift" (toString n ++ ": shift count out of range") 1
  else if n ≤ s.arguments.length then
    modify fun s => { s with arguments := s.arguments.drop n.toNat }
    setStatus 0
  else
    match s.dialect with
    | .bash => setStatus 1
    | .dash => builtinFail "shift" "can't shift that many" 2

/-- The status that an argument gives. -/
def statusArgument (name : String) (arguments : List String) : ShellM Nat := do
  let s ← get
  match s.dialect, arguments with
  | _, [] | .bash, ["--"] => return s.status
  | .dash, text :: _ => plainNumber name text
  | .bash, "--" :: text :: _ | .bash, text :: _ =>
    match wordOf? text with
    | some n => return (n % 256).toNat
    | none =>
      builtinError name (text ++ ": numeric argument required") 2
      return 2

/-- The command `exit`. -/
def exitCommand (arguments : List String) : ShellM Unit := do
  let operands := if arguments.head? = some "--" then arguments.drop 1 else arguments
  if (← dialect) = .bash ∧ operands.length > 1 ∧ (operands.head?.bind wordOf?).isSome then
    builtinError "exit" "too many arguments" 1
    throw (.abandon 1)
  throw (.exit (← statusArgument "exit" arguments))

/-- The command `return`. -/
def returnCommand (arguments : List String) : ShellM Unit := do
  let s ← get
  let status ← statusArgument "return" arguments
  if s.dialect = .bash ∧ s.calls = 0 ∧ s.sourced = 0 then
    builtinError "return" "can only `return' from a function or sourced script" 2
  else throw (.return status)

/-- The commands `break` and `continue`. -/
def leaveLoop (name : String) (leave : Nat → Leave) (arguments : List String) : ShellM Unit := do
  let s ← get
  if s.loops = 0 then
    if s.dialect = .bash then
      builtinError name "only meaningful in a `for', `while', or `until' loop" 0
    setStatus 0
  else
    let n ← countOf name arguments
    if n ≤ 0 then
      match s.dialect with
      | .bash =>
        builtinError name (toString n ++ ": loop count out of range") 1
        throw (.break s.loops)
      | .dash => builtinFail name ("Illegal number: " ++ toString n) 2
    setStatus 0
    throw (leave (min n.toNat s.loops))

/-- The command `umask`. -/
def umaskCommand (arguments : List String) : ShellM Unit := do
  match arguments with
  | [] =>
    let octal := (digitsText 8 false (← get).mask).toNat?.getD 0
    succeedWith "umask" (zeroPadded 4 octal ++ "\n")
  | text :: _ =>
    let (mask, rest) := digitsFrom 8 0 text.length text.toList
    if rest.isEmpty then
      modify fun s => { s with mask }
      setStatus 0
    else builtinError "umask" (text ++ ": invalid mode") 1

/-- What the next step of `getopts` finds among arguments. -/
inductive FoundOption where
  | found (letter : Char) (value : Option String) (used offset : Nat)
  | unknown (letter : Char) (used offset : Nat)
  | lacking (letter : Char) (used : Nat)
  | none (used : Nat)

/-- The next option among arguments, when an argument has been read up to an offset. -/
def nextOption (letters : List Char) (offset : Nat) (arguments : List String) : FoundOption :=
  match arguments with
  | [] => .none 0
  | "--" :: _ => .none 1
  | first :: rest =>
    let start := if offset = 0 then 1 else offset
    match first.toList.head?, first.toList.drop start with
    | some '-', c :: more =>
      let takesValue := match letters.dropWhile (· != c) with
        | _ :: ':' :: _ => true
        | _ => false
      let here := if more.isEmpty then (1, 0) else (0, start + 1)
      if c = ':' ∨ !letters.contains c then .unknown c here.1 here.2
      else if !takesValue then .found c .none here.1 here.2
      else if !more.isEmpty then .found c (some (String.ofList more)) 1 0
      else match rest with
        | value :: _ => .found c (some value) 2 0
        | [] => .lacking c 1
    | _, _ => .none 0

/-- The command `getopts`. -/
def getoptsCommand (arguments : List String) : ShellM Unit := do
  match arguments with
  | spec :: name :: others =>
    let s ← get
    let arguments := if others.isEmpty then s.arguments else others
    let index := ((s.value? "OPTIND").bind (·.toNat?)).getD 1
    let quiet := spec.startsWith ":"
    let letters := spec.toList.filter fun _ => true
    let move (used offset : Nat) : ShellM Unit := do
      assign "OPTIND" (toString (index + used))
      modify fun s => { s with optionOffset := offset }
    match nextOption letters s.optionOffset (arguments.drop (index - 1)) with
    | .found c value used offset =>
      move used offset
      assign name c.toString
      match value with
      | some v => assign "OPTARG" v
      | none => modify (·.dropVariable "OPTARG")
      setStatus 0
    | .unknown c used offset =>
      move used offset
      assign name "?"
      if quiet then assign "OPTARG" c.toString
      else
        modify (·.dropVariable "OPTARG")
        match s.dialect with
        | .bash => complainPlainly (s.name ++ ": illegal option -- " ++ c.toString)
        | .dash => complainPlainly ("Illegal option -" ++ c.toString)
      setStatus 0
    | .lacking c used =>
      move used 0
      if quiet then
        assign name ":"
        assign "OPTARG" c.toString
      else
        assign name "?"
        modify (·.dropVariable "OPTARG")
        match s.dialect with
        | .bash => complainPlainly (s.name ++ ": option requires an argument -- " ++ c.toString)
        | .dash => complainPlainly ("No arg for -" ++ c.toString ++ " option")
      setStatus 0
    | .none used =>
      move used 0
      assign name "?"
      setStatus 1
  | _ =>
    match ← dialect with
    | .bash => complainPlainly "getopts: usage: getopts optstring name [arg ...]"
    | .dash => complain "Usage: getopts optstring var [arg...]"
    setStatus 2

/-- The command `let`. -/
def letCommand : List String → ShellM Unit
  | [] => builtinError "let" "expression expected" 1
  | [text] => do
    let v ← arithmetic text
    setStatus (if v = 0 then 1 else 0)
  | text :: rest => do
    let _ ← arithmetic text
    letCommand rest

end Overseer.Shell
