import Overseer.Host.Streams
import Overseer.Tools.Quoting

/-!
# What tools have in common

A tool is told its arguments and its environment, works on streams and files, and ends with an exit
code.

## Main definitions

* `Tool` — tools
* `Settings`, `readOptions` — options and operands
* `say`, `report` — output and messages
* `readInput`, `eachInput` — the inputs that operands name
-/

namespace Overseer.Tools

open Overseer.Host Overseer.Os

/-- A tool: what it does with its arguments, the first of them being its own name, in an
environment. -/
abbrev Tool := List String → Variables → Act Nat

/-- Writes a message. -/
def report (name message : String) : Act Unit := do
  let _ ← writeText 2 (name ++ ": " ++ message ++ "\n")

/-- Writes output, and gives the exit code that comes of it. -/
def say (name text : String) (code : Nat) : Act Nat := do
  match ← writeText 1 text with
  | .ok () => return code
  | .error e => do
    report name ("write error: " ++ e.text)
    return 1

/-! ## Options -/

/-- Options and operands. -/
structure Settings where
  /-- the letters of the options, in order, each with its value if it takes one -/
  options : List (Char × Option String) := []
  /-- the other arguments -/
  operands : List String := []
  deriving Inhabited, Repr

namespace Settings

/-- Whether an option is given. -/
def has (s : Settings) (c : Char) : Bool := s.options.any (·.1 == c)

/-- The last value of an option. -/
def value? (s : Settings) (c : Char) : Option String :=
  (s.options.reverse.find? (·.1 == c)).bind (·.2)

end Settings

/-- The options that a tool knows. -/
structure Known where
  /-- letters of options without a value -/
  flags : String := ""
  /-- letters of options with a value -/
  valued : String := ""
  /-- long names, and the letters that they stand for -/
  long : List (String × Char) := []
  /-- options may stand behind operands -/
  anywhere : Bool := true

/-- The options in the letters of one argument. -/
def clusterOptions (k : Known) :
    List Char → Except String (List (Char × Option String) × Option Char)
  | [] => .ok ([], none)
  | c :: rest =>
    if k.flags.toList.contains c then do
      let (options, open_) ← clusterOptions k rest
      return ((c, none) :: options, open_)
    else if k.valued.toList.contains c then
      if rest.isEmpty then .ok ([], some c) else .ok ([(c, some (String.ofList rest))], none)
    else .error ("invalid option -- '" ++ c.toString ++ "'")

/-- Sorts arguments into options and operands. -/
def readOptions (k : Known) : List String → Except String Settings
  | [] => .ok {}
  | first :: rest =>
    let operand : Except String Settings :=
      if k.anywhere then do
        let s ← readOptions k rest
        return { s with operands := first :: s.operands }
      else .ok { operands := first :: rest }
    let add (options : List (Char × Option String)) (s : Settings) : Settings :=
      { s with options := options ++ s.options }
    match first.toList with
    | ['-', '-'] => .ok { operands := rest }
    | '-' :: '-' :: name =>
      let word := String.ofList (name.takeWhile (· != '='))
      match k.long.find? fun (n, _) => n = word ∨ (n.startsWith word ∧ word.length > 2) with
      | none => .error ("unrecognized option '" ++ first ++ "'")
      | some (_, c) =>
        if k.valued.toList.contains c then
          if name.contains '=' then do
            let s ← readOptions k rest
            return add [(c, some (String.ofList (name.drop (word.length + 1))))] s
          else match rest with
            | value :: rest => do
              let s ← readOptions k rest
              return add [(c, some value)] s
            | [] => .error ("option '" ++ first ++ "' requires an argument")
        else do
          let s ← readOptions k rest
          return add [(c, none)] s
    | '-' :: c :: letters =>
      match clusterOptions k (c :: letters) with
      | .error e => .error e
      | .ok (options, none) => do
        let s ← readOptions k rest
        return add options s
      | .ok (options, some c) =>
        match rest with
        | value :: rest => do
          let s ← readOptions k rest
          return add (options ++ [(c, some value)]) s
        | [] => .error ("option requires an argument -- '" ++ c.toString ++ "'")
    | _ => operand

/-- Reports wrong usage. -/
def usageError (name message : String) (code : Nat) : Act Nat := do
  report name message
  let _ ← writeText 2 ("Try '" ++ name ++ " --help' for more information.\n")
  return code

/-- Reads the options of a tool and goes on with them. -/
def withOptions (k : Known) (code : Nat) (arguments : List String)
    (go : String → Settings → Act Nat) : Act Nat := do
  let name := arguments.headD ""
  match readOptions k (arguments.drop 1) with
  | .ok s => go name s
  | .error e => usageError name e code

/-! ## Inputs -/

/-- Opens the input that an operand names. -/
def openInput (operand : String) : Act (Except Errno Nat) := do
  if operand = "-" then return .ok 0 else Act.call (.openFile operand { read := true })

/-- Closes the input that an operand named. -/
def closeInput (operand : String) (fd : Nat) : Act Unit := do
  if operand ≠ "-" then
    let _ ← Act.call (.close fd)

/-- Everything in the input that an operand names. -/
def readInput (operand : String) : Act (Except Errno ByteArray) := do
  match ← openInput operand with
  | .error e => return .error e
  | .ok fd =>
    let bytes ← readAll fd
    closeInput operand fd
    return bytes

/-- The operands, or the standard input if there are none. -/
def inputs (s : Settings) : List String := if s.operands.isEmpty then ["-"] else s.operands

/-- Works on inputs one by one; each piece of work gives an exit code, and the greatest
one counts. -/
def eachOf {α : Type} (work : α → Act Nat) : List α → (sofar : Nat) → Act Nat
  | [], sofar => return sofar
  | a :: rest, sofar => do
    let code ← work a
    eachOf work rest (max sofar code)

/-- Works on everything in each of some inputs. -/
def eachInput (name : String) (failure : String → Errno → String)
    (work : String → ByteArray → Act Nat) (operands : List String) : Act Nat :=
  eachOf (fun operand => do
    match ← readInput operand with
    | .ok bytes => work operand bytes
    | .error e => do
      report name (failure operand e)
      return 1) operands 0

/-- Everything in some inputs, one behind the other. -/
def readInputs (name : String) (failure : String → Errno → String) :
    List String → Act (ByteArray × Nat)
  | [] => return (.empty, 0)
  | operand :: rest => do
    match ← readInput operand with
    | .ok bytes =>
      let (more, code) ← readInputs name failure rest
      return (bytes ++ more, code)
    | .error e => do
      report name (failure operand e)
      let (more, code) ← readInputs name failure rest
      return (more, max 1 code)

/-- The usual way to say that an input cannot be read. -/
def plainFailure (operand : String) (e : Errno) : String := shownName operand ++ ": " ++ e.text

/-- Lines, without their ends; an unfinished last line counts as one. -/
def linesOf (text : String) : List String :=
  let lines := text.splitOn "\n"
  if lines.getLast? = some "" then lines.dropLast else lines

/-- Lines as a text. -/
def unlines (lines : List String) : String := String.join (lines.map (· ++ "\n"))

/-- The letters of multiples, each the thousandfold of the one before. -/
def multipleLetters : List Char := ['K', 'M', 'G', 'T', 'P', 'E', 'Z', 'Y', 'R', 'Q']

/-- The number that the letters behind a number multiply it by. -/
def multiple? (letters : List Char) : Option Nat :=
  match letters with
  | [] => some 1
  | ['b'] => some 512
  | c :: unit =>
    let c := if c = 'k' ∨ c = 'm' then c.toUpper else c
    match multipleLetters.idxOf? c, unit with
    | some i, [] | some i, ['i', 'B'] => some (power 1024 (i + 1))
    | some i, ['B'] => some (power 1000 (i + 1))
    | _, _ => none
where
  /-- A product of equal factors. -/
  power (factor n : Nat) : Nat := (List.replicate n factor).foldl (· * ·) 1

/-- The number that digits are, perhaps with letters for a multiple; otherwise what a message says
about the text behind it. -/
def readSize (text : String) : Except String Nat :=
  let digits := text.toList.takeWhile Char.isDigit
  match (String.ofList digits).toNat?, multiple? (text.toList.drop digits.length) with
  | some n, some factor =>
    if n * factor < 18446744073709551616 then .ok (n * factor)
    else .error ": Value too large for defined data type"
  | _, _ => .error ""

/-- The number that digits are, perhaps with letters for a multiple. -/
def sizeOf? (text : String) : Option Nat := (readSize text).toOption

end Overseer.Tools
