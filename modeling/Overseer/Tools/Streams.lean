import Overseer.Tools.Console
import Overseer.Tools.Escapes

/-!
# Tools for streams

Tools that hand on what they read, all of it or a part, or count it.

## Main definitions

* `cat`, `tee`, `yes`, `head`, `tail`, `wc` — the tools
-/

namespace Overseer.Tools

open Overseer.Host Overseer.Os

/-! ## Handing on -/

/-- Hands an input on. -/
def copyOut (name operand : String) : Act Nat := do
  match ← openInput operand with
  | .error e => do
    report name (plainFailure operand e)
    return 1
  | .ok fd =>
    match ← Act.call (.statusOf fd) with
    | .error e => do
      report name (plainFailure operand e)
      report name ("closing standard input: " ++ e.text)
      return 1
    | .ok _ =>
      let r ← copyFor (fun (_ : Unit) bytes => (bytes, ())) manyTimes fd 1 ()
      closeInput operand fd
      match r with
      | .ok () => return 0
      | .error .noSpace => do
        report name ("write error: " ++ Errno.noSpace.text)
        return 1
      | .error e => do
        report name (plainFailure operand e)
        return 1

/-- Lines without those that are empty like the one before them. -/
def squeezeEmpty : List String → List String
  | a :: b :: rest =>
    if a.isEmpty ∧ b.isEmpty then squeezeEmpty (a :: rest) else a :: squeezeEmpty (b :: rest)
  | lines => lines
termination_by lines => lines.length

/-- Lines with their numbers, from `n` on; with `skip` empty ones have none. -/
def numbered (skip : Bool) (n : Nat) : List String → List String
  | [] => []
  | line :: rest =>
    if skip ∧ line.isEmpty then line :: numbered skip n rest
    else
      let number := toString n
      ("".pushn ' ' (6 - number.length) ++ number ++ "\t" ++ line) :: numbered skip (n + 1) rest

/-- A byte of a line as it is shown, where `odd` ones or `tabs` have to be visible. -/
def visibleChar (odd tabs : Bool) (c : Char) : String :=
  if c = '\t' then if tabs then "^I" else "\t"
  else if !odd then c.toString
  else
    let (mark, n) := if c.toNat < 128 then ("", c.toNat) else ("M-", c.toNat - 128)
    if n < 32 then mark ++ "^" ++ (Char.ofNat (n + 64)).toString
    else if n = 127 then mark ++ "^?"
    else mark ++ (Char.ofNat n).toString

/-- Writes its inputs one behind the other. -/
def cat : Tool := fun arguments _ =>
  withOptions
    { flags := "nAbeEstTuv"
      long := [("number", 'n'), ("show-all", 'A'), ("number-nonblank", 'b'), ("show-ends", 'E'),
        ("squeeze-blank", 's'), ("show-tabs", 'T'), ("show-nonprinting", 'v')] } 1 arguments
    fun name s => do
      if let .error e ← Act.call (.statusOf 1) then
        report name ("standard output: " ++ e.text)
        return 1
      if "nAbeEstTv".toList.any s.has then
        let (bytes, code) ← readInputs name plainFailure (inputs s)
        let ends := s.has 'A' || s.has 'e' || s.has 'E'
        let tabs := s.has 'A' || s.has 't' || s.has 'T'
        let odd := s.has 'A' || s.has 'e' || s.has 't' || s.has 'v'
        let lines := (octets bytes).splitOn "\n"
        let finished := lines.getLast? == some ""
        let lines := if finished then lines.dropLast else lines
        let lines := if s.has 's' then squeezeEmpty lines else lines
        let shown := lines.map fun line =>
          String.join (line.toList.map (visibleChar odd tabs))
        let numbers := s.has 'n' || s.has 'b'
        let body := if numbers then numbered (s.has 'b') 1 shown else shown
        let between := if ends then "$\n" else "\n"
        say name (between.intercalate body ++ if finished ∧ !body.isEmpty then between else "") code
      else
        eachOf (copyOut name) (inputs s) 0

/-- Opens files for writing, one by one. -/
def openAll (name : String) (append : Bool) : List String → Act (List Nat × Nat)
  | [] => return ([], 0)
  | path :: rest => do
    let flags : OpenFlags := { write := true, create := true, truncate := !append, append }
    match ← Act.call (.openFile path flags) with
    | .ok fd =>
      let (fds, code) ← openAll name append rest
      return (fd :: fds, code)
    | .error e => do
      report name (plainFailure path e)
      let (fds, _) ← openAll name append rest
      return (fds, 1)

/-- Writes the same bytes to several descriptors. -/
def writeToAll (bytes : ByteArray) : List Nat → Act Unit
  | [] => return
  | fd :: rest => do
    let _ ← writeAll fd bytes
    writeToAll bytes rest

/-- Hands its input on to its output and to files. -/
def tee : Tool := fun arguments _ =>
  withOptions { flags := "ai", long := [("append", 'a')] } 1 arguments fun name s => do
    let (fds, code) ← openAll name (s.has 'a') s.operands
    let rec go : Nat → Act Nat
      | 0 => return code
      | n + 1 => do
        match ← Act.call (.read 0 portionSize) with
        | .ok bytes =>
          if bytes.isEmpty then return code
          writeToAll bytes (1 :: fds)
          go n
        | .error .interrupted => go n
        | .error e => do
          report name ("-: " ++ e.text)
          return 1
    go manyTimes

/-- Writes a line again and again. -/
def yes : Tool := fun arguments _ =>
  withOptions {} 1 arguments fun name s => do
  let words := s.operands
  let line := (if words.isEmpty then "y" else " ".intercalate words) ++ "\n"
  let many := bytesOf (String.join (List.replicate (8192 / line.length + 1) line))
  let rec go : Nat → Act Nat
    | 0 => return 0
    | n + 1 => do
      match ← writeAll 1 many with
      | .ok () => go n
      | .error e => do
        report name ("standard output: " ++ e.text)
        return 1
  go manyTimes

/-! ## Beginnings and ends -/

/-- How much of an input is wanted. -/
structure Portion where
  /-- lines are counted, not bytes -/
  lines : Bool := true
  /-- the count -/
  count : Nat := 10
  /-- the count is seen from the other end -/
  fromOther : Bool := false
  deriving Repr

/-- The bytes up to the end of so many lines, and how many lines are still to come. -/
def cutLines (count : Nat) (bytes : ByteArray) : ByteArray × Nat :=
  let rec go : Nat → Nat → Nat → Nat × Nat
    | 0, i, missing => (i, missing)
    | steps + 1, i, missing =>
      if missing = 0 then (i, 0)
      else if bytes.get! i = 10 then go steps (i + 1) (missing - 1)
      else go steps (i + 1) missing
  let (i, missing) := go bytes.size 0 count
  (bytes.extract 0 i, missing)

/-- Hands on the beginning of an input. -/
def headOf (lines : Bool) (fd : Nat) : (count : Nat) → Nat → Act (Except Errno Unit)
  | 0, _ | _, 0 => return .ok ()
  | count, n + 1 => do
    let limit := if lines then 8192 else min portionSize count
    match ← Act.call (.read fd limit) with
    | .error .interrupted => headOf lines fd count n
    | .error e => return .error e
    | .ok bytes =>
      if bytes.isEmpty then return .ok ()
      let (part, missing) := if lines then cutLines count bytes else (bytes, count - bytes.size)
      match ← writeAll 1 part with
      | .ok () => headOf lines fd missing n
      | .error e => return .error e

/-- The count of an option.  `other` is the sign of a count from the other end. -/
def portionOf (lines : Bool) (other : Char) (text : String) : Except String Portion :=
  let (fromOther, digits, shown) := match text.toList with
    | c :: rest =>
      let unsigned := if c = '-' then String.ofList rest else text
      if c = other ∨ c = '-' ∨ c = '+' then (c == other, String.ofList rest, unsigned)
      else (false, text, text)
    | [] => (false, text, text)
  match readSize digits with
  | .ok count => .ok ⟨lines, count, fromOther⟩
  | .error fault => .error ("invalid number of " ++ (if lines then "lines: " else "bytes: ") ++
      quotedArgument shown ++ fault)

/-- The portion that options ask for. -/
def portionSettings (other : Char) (s : Settings) : Except String Portion :=
  match s.options.reverse.find? fun (c, _) => c == 'c' || c == 'n' with
  | some ('c', text) => portionOf false other (text.getD "")
  | some (_, text) => portionOf true other (text.getD "")
  | none => .ok {}

/-- The options that an old-fashioned count with letters behind it stands for. -/
def countOptions (digits : String) (letters : List Char) : Except Char (List String) := do
  let kept ← letters.filterMapM fun c => match c with
    | 'c' | 'b' | 'k' | 'm' | 'l' => .ok none
    | 'q' | 'v' => .ok (some ("-" ++ c.toString))
    | c => .error c
  let unit := letters.filter fun c => c == 'b' || c == 'k' || c == 'm' || c == 'c'
  match letters.getLast?, unit.getLast? with
  | some 'l', _ | _, none => return "-n" :: digits :: kept
  | _, some c => return "-c" :: (digits ++ if c = 'c' then "" else c.toString) :: kept

/-- The arguments of `head` without an old-fashioned count, or what is wrong with it. -/
def headArguments : List String → Except Char (List String)
  | name :: first :: rest =>
    match first.toList with
    | '-' :: c :: more =>
      if c.isDigit then do
        let digits := c :: more.takeWhile Char.isDigit
        let options ← countOptions (String.ofList digits) (more.dropWhile Char.isDigit)
        return name :: options ++ rest
      else return name :: first :: rest
    | _ => return name :: first :: rest
  | arguments => return arguments

/-- The options that an old-fashioned count of `tail` stands for. -/
def tailCount? (text : String) : Option (List String) :=
  match text.toList with
  | sign :: rest =>
    let digits := rest.takeWhile Char.isDigit
    let letters := rest.drop digits.length
    let follows := letters.getLast? == some 'f'
    let unit := if follows then letters.dropLast else letters
    let count := if digits.isEmpty then "10" else String.ofList digits
    let signed (unit : String) : String := (if sign = '+' then "+" else "") ++ count ++ unit
    let plain := sign = '+' ∨ (sign = '-' ∧ !digits.isEmpty)
    if !plain then none
    else match unit with
      | [] | ['l'] => some ["-n", signed ""]
      | ['c'] => some ["-c", signed ""]
      | ['b'] => some ["-c", signed "b"]
      | _ => none
  | [] => none

/-- The arguments of `tail` without an old-fashioned count, which may stand before one operand. -/
def tailArguments (arguments : List String) : List String :=
  match arguments with
  | [name, first] => name :: (tailCount? first).getD [first]
  | [name, first, operand] =>
    if operand.startsWith "-" ∧ operand ≠ "-" then arguments
    else name :: (tailCount? first).getD [first] ++ [operand]
  | _ => arguments

/-- The last bytes or lines of a text, so many; or what is behind the first ones. -/
def tailOf (p : Portion) (bytes : ByteArray) : ByteArray :=
  if p.lines then
    if p.fromOther then
      let (skipped, _) := cutLines (p.count - 1) bytes
      bytes.extract skipped.size bytes.size
    else
      let total := bytes.foldl (fun n b => if b = 10 then n + 1 else n) 0
      let unfinished := !bytes.isEmpty && bytes.get! (bytes.size - 1) != 10
      let all := if unfinished then total + 1 else total
      let (skipped, _) := cutLines (all - p.count) bytes
      if p.count = 0 then .empty else bytes.extract skipped.size bytes.size
  else if p.fromOther then bytes.extract (p.count - 1) bytes.size
  else bytes.extract (bytes.size - p.count) bytes.size

/-- All but the last bytes or lines of a text. -/
def allBut (p : Portion) (bytes : ByteArray) : ByteArray :=
  bytes.extract 0 (bytes.size - (tailOf { p with fromOther := false } bytes).size)

/-- The title of an input among several. -/
def titleOf (first : Bool) (operand : String) : String :=
  (if first then "" else "\n") ++ "==> " ++ (if operand = "-" then "standard input" else operand) ++
    " <==\n"

/-- Works on inputs, with titles if there are several of them. -/
def titled (s : Settings) (work : String → Act Nat) : Act Nat := do
  let operands := inputs s
  let titles := match (s.options.reverse.map (·.1)).find? fun c => c == 'q' || c == 'v' with
    | some c => c == 'v'
    | none => operands.length > 1
  let rec go (first : Bool) : List String → Nat → Act Nat
    | [], code => return code
    | operand :: rest, code => do
      if titles then
        let _ ← writeText 1 (titleOf first operand)
      let c ← work operand
      go false rest (max code c)
  go true operands 0

/-- Writes the beginnings of its inputs. -/
def head : Tool := fun arguments _ =>
  match headArguments arguments with
  | .error c => usageError (arguments.headD "") ("invalid trailing option -- " ++ c.toString) 1
  | .ok arguments =>
    withOptions
      { flags := "qv0123456789", valued := "nc"
        long := [("lines", 'n'), ("bytes", 'c'), ("quiet", 'q'), ("silent", 'q'), ("verbose", 'v')] }
      1 arguments fun name s => do
      if let some (c, _) := s.options.find? fun (c, _) => c.isDigit then
        return ← usageError name ("invalid trailing option -- " ++ c.toString) 1
      match portionSettings '-' s with
      | .error e => do
        report name e
        return 1
      | .ok p => titled s fun operand => do
        match ← openInput operand with
        | .error e => do
          report name ("cannot open " ++ quotedName operand ++ " for reading: " ++ e.text)
          return 1
        | .ok fd =>
          let r ← if p.fromOther then do
              match ← readAll fd with
              | .ok bytes => writeAll 1 (allBut p bytes)
              | .error e => pure (.error e)
            else headOf p.lines fd p.count manyTimes
          closeInput operand fd
          match r with
          | .ok () => return 0
          | .error .isDirectory => do
            report name ("error reading " ++ quotedName operand ++ ": Is a directory")
            return 1
          | .error e => do
            report name ("error writing 'standard output': " ++ e.text)
            return 1

/-- Writes the ends of its inputs. -/
def tail : Tool := fun arguments _ =>
  withOptions
    { flags := "qvfF0123456789", valued := "ncs"
      long := [("lines", 'n'), ("bytes", 'c'), ("quiet", 'q'), ("silent", 'q'), ("verbose", 'v')] }
    1 (tailArguments arguments) fun name s => do
      if let some (c, _) := s.options.find? fun (c, _) => c.isDigit then
        report name ("option used in invalid context -- " ++ c.toString)
        return 1
      match portionSettings '+' s with
      | .error e => do
        report name e
        return 1
      | .ok p => titled s fun operand => do
        match ← readInput operand with
        | .ok bytes => do
          let code ← say name (octets (tailOf p bytes)) 0
          return code
        | .error e => do
          report name (if e = .isDirectory then "error reading " ++ quotedName operand ++ ": Is a directory"
            else "cannot open " ++ quotedName operand ++ " for reading: " ++ e.text)
          return 1

/-! ## Counts -/

/-- What is counted in an input. -/
structure Counts where
  /-- ends of lines -/
  lines : Nat := 0
  /-- words -/
  words : Nat := 0
  /-- bytes -/
  bytes : Nat := 0
  /-- the longest line -/
  longest : Nat := 0

/-- Whether a byte separates words. -/
def isSpaceByte (b : UInt8) : Bool := b == 32 || (9 ≤ b && b ≤ 13)

/-- The column that a byte leads to. -/
def columnBehind (column : Nat) (b : UInt8) : Nat :=
  if b == 9 then column + 8 - column % 8
  else if b == 10 || b == 12 || b == 13 then 0
  else if 32 ≤ b && b ≤ 126 then column + 1
  else column

/-- Counts an input. -/
def countsOf (bytes : ByteArray) : Counts :=
  let (lines, words, _, _, longest) := bytes.foldl
    (fun (lines, words, inWord, length, longest) b =>
      let lines := if b == 10 then lines + 1 else lines
      let space := isSpaceByte b
      let words := if !space && !inWord then words + 1 else words
      let length := columnBehind length b
      (lines, words, !space, length, max length longest))
    ((0, 0, false, 0, 0) : Nat × Nat × Bool × Nat × Nat)
  { lines, words, bytes := bytes.size, longest }

/-- The counts that options ask for. -/
def chosenCounts (s : Settings) (c : Counts) : List Nat :=
  let all := !(s.has 'l' || s.has 'w' || s.has 'c' || s.has 'm' || s.has 'L')
  (if all || s.has 'l' then [c.lines] else []) ++ (if all || s.has 'w' then [c.words] else []) ++
    (if s.has 'm' then [c.bytes] else []) ++ (if all || s.has 'c' then [c.bytes] else []) ++
    (if s.has 'L' then [c.longest] else [])

/-- Counts as a line. -/
def countLine (width : Nat) (counts : List Nat) (operand : String) : String :=
  let column (n : Nat) : String :=
    let digits := toString n
    "".pushn ' ' (width - digits.length) ++ digits
  " ".intercalate (counts.map column) ++ (if operand.isEmpty then ""
    else " " ++ if operand.toList.contains '\n' then shownName operand else operand) ++ "\n"

/-- Counts lines, words and bytes. -/
def wc : Tool := fun arguments _ =>
  withOptions
    { flags := "lwcmL"
      long := [("lines", 'l'), ("words", 'w'), ("bytes", 'c'), ("chars", 'm'),
        ("max-line-length", 'L')] } 1 arguments
    fun name s => do
      let rec go : List String → Act (List (String × Counts × Bool) × Nat)
        | [] => return ([], 0)
        | operand :: rest => do
          let opened ← if operand.isEmpty then pure (.error Errno.noEntry) else openInput operand
          match opened with
          | .error e => do
            report name (if operand.isEmpty then "invalid zero-length file name"
              else plainFailure operand e)
            let (more, _) ← go rest
            return (more, 1)
          | .ok fd =>
            let status ← Act.call (.statusOf fd)
            let regular := match status with
              | .ok { identity := .file _, .. } => true
              | _ => false
            let bytes ← readAll fd
            closeInput operand fd
            match bytes with
            | .ok bytes =>
              let (more, code) ← go rest
              return ((operand, countsOf bytes, regular) :: more, code)
            | .error e => do
              report name (plainFailure operand e)
              let (more, _) ← go rest
              return (more, 1)
      let (found, code) ← go (inputs s)
      let total : Counts := found.foldl (fun t (_, c, _) =>
        { lines := t.lines + c.lines, words := t.words + c.words, bytes := t.bytes + c.bytes,
          longest := max t.longest c.longest }) {}
      let single := (chosenCounts s total).length = 1
      let width :=
        if single ∧ (inputs s).length = 1 then 1
        else if found.all (·.2.2) then (toString total.bytes).length
        else 7
      let rows := found.map fun (operand, c, _) =>
        countLine width (chosenCounts s c) (if s.operands.isEmpty then "" else operand)
      let sum :=
        if (inputs s).length > 1 then [countLine width (chosenCounts s total) "total"] else []
      say name (String.join (rows ++ sum)) code

end Overseer.Tools
