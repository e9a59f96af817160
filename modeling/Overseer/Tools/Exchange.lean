import Overseer.Tools.Console
import Overseer.Tools.Escapes

/-!
# Exchanging characters

A tool that hands on what it reads with some characters exchanged, left out, or written once where
they stand several times in a row.  Its arguments spell out sets of characters: single ones, ranges,
classes, and one character repeated.

## Main definitions

* `SetPart`, `readSet` — what a set is spelled out with
* `Exchange` — what becomes of each byte
* `tr` — the tool
-/

namespace Overseer.Tools

open Overseer.Host Overseer.Os

/-! ## Sets -/

/-- The characters of a class. -/
def classChars (name : String) : List Char :=
  let all := (List.range 256).map Char.ofNat
  let blank (c : Char) : Bool := c == ' ' || c == '\t'
  let space (c : Char) : Bool := blank c || ('\n' ≤ c && c ≤ '\r')
  all.filter fun c =>
    match name with
    | "alpha" => c.isAlpha
    | "digit" => c.isDigit
    | "alnum" => c.isAlphanum
    | "upper" => c.isUpper
    | "lower" => c.isLower
    | "space" => space c
    | "blank" => blank c
    | "punct" => '!' ≤ c && c ≤ '~' && !c.isAlphanum
    | "print" => ' ' ≤ c && c ≤ '~'
    | "graph" => '!' ≤ c && c ≤ '~'
    | "cntrl" => c < ' ' || c == '\x7f'
    | "xdigit" => (digitOf? 16 c).isSome
    | _ => false

/-- The names of the classes. -/
def classNames : List String :=
  ["alnum", "alpha", "blank", "cntrl", "digit", "graph", "lower", "print", "punct", "space",
    "upper", "xdigit"]

/-- What a set is spelled out with. -/
inductive SetPart where
  /-- characters one by one -/
  | chars (cs : List Char)
  /-- the characters of a class -/
  | named (name : String)
  /-- one character as often as there is room for it -/
  | filler (c : Char)
  deriving Repr

/-- A character of an argument, and whether a backslash stood before it. -/
abbrev SetChar := Char × Bool

/-- The characters of an argument whose escapes have been replaced. -/
def setChars : Nat → List Char → List SetChar
  | 0, _ | _, [] => []
  | n + 1, '\\' :: c :: rest =>
    match controlLetters.find? (·.2 == c) with
    | some (control, _) => (control, true) :: setChars n rest
    | none =>
      let (value, behind) := digitsFrom 8 0 3 (c :: rest)
      let (value, behind) :=
        if value < 256 then (value, behind) else (value / 8, rest.drop 1)
      if behind.length ≤ rest.length then (Char.ofNat value, true) :: setChars n behind
      else (c, true) :: setChars n rest
  | n + 1, c :: rest => (c, false) :: setChars n rest

/-- A character as a message about a range shows it. -/
def endpointText (c : Char) : String :=
  if hasShape c then c.toString else "\\" ++ String.ofList (octalDigits c)

/-- The text of a group such as `[:name:]`, whose opening bracket and mark have been read, and what
is behind the group. -/
def groupText? (mark : Char) (sofar : List Char) : List SetChar → Option (List Char × List SetChar)
  | (c, false) :: (']', false) :: rest =>
    if c = mark then some (sofar.reverse, rest)
    else groupText? mark (c :: sofar) ((']', false) :: rest)
  | (c, _) :: rest => groupText? mark (c :: sofar) rest
  | [] => none

/-- The part that a group spells out. -/
def groupPart (mark : Char) (text : List Char) : Except String SetPart :=
  let name := String.ofList text
  match mark, text with
  | ':', [] => .error "missing character class name '[::]'"
  | ':', _ =>
    if classNames.contains name then .ok (.named name)
    else .error ("invalid character class " ++ quotedArgument name)
  | _, [] => .error "missing equivalence class character '[==]'"
  | _, [c] => .ok (.chars [c])
  | _, _ => .error (name ++ ": equivalence class operand must be a single character")

/-- The part that a repetition such as `[c*n]` spells out, given its character and number. -/
def repeated (c : Char) (digits : List Char) : Except String SetPart :=
  let base := if digits.head? == some '0' then 8 else 10
  let (count, rest) := digitsFrom base 0 digits.length digits
  if !rest.isEmpty then
    .error ("invalid repeat count " ++ quotedArgument (String.ofList digits) ++
      " in [c*n] construct")
  else if count = 0 then .ok (.filler c)
  else .ok (.chars (List.replicate count c))

/-- A repetition at the start of a text: its character and number, and what is behind it. -/
def repetition? : List SetChar → Option (Char × List Char × List SetChar)
  | (c, _) :: ('*', false) :: rest =>
    let digits := rest.takeWhile fun x => x != (']', false)
    if digits.length = rest.length then none
    else some (c, digits.map (·.1), rest.drop (digits.length + 1))
  | _ => none

/-- The part at the start of a text, and what is behind it. -/
def setPart (c : Char) (bare : Bool) (rest : List SetChar) :
    Except String (SetPart × List SetChar) := do
  let group := match bare && c == '[', rest with
    | true, (mark, false) :: inside =>
      if mark = ':' ∨ mark = '=' then (groupText? mark [] inside).map (mark, ·) else none
    | _, _ => none
  match group, (if bare ∧ c = '[' then repetition? rest else none), rest with
  | some (mark, text, behind), _, _ => return (← groupPart mark text, behind)
  | none, some (d, digits, behind), _ => return (← repeated d digits, behind)
  | none, none, ('-', false) :: (d, _) :: behind =>
    if d < c then
      throw ("range-endpoints of '" ++ endpointText c ++ "-" ++ endpointText d ++
        "' are in reverse collating sequence order")
    let range := (List.range (d.toNat + 1 - c.toNat)).map fun i => Char.ofNat (c.toNat + i)
    return (.chars range, behind)
  | none, none, _ => return (.chars [c], rest)

/-- The parts of a set, at most so many. -/
def setParts : Nat → List SetChar → Except String (List SetPart)
  | 0, _ | _, [] => .ok []
  | n + 1, (c, escaped) :: rest => do
    let (part, behind) ← setPart c (!escaped) rest
    return part :: (← setParts n behind)

/-- The parts that an argument spells out. -/
def readSet (argument : String) : Except String (List SetPart) :=
  let chars := argument.toList
  setParts (chars.length + 1) (setChars (chars.length + 1) chars)

/-- The characters of a part; a filler takes so much room. -/
def SetPart.toChars (room : Nat) : SetPart → List Char
  | chars cs => cs
  | named name => classChars name
  | filler c => List.replicate room c

/-- The characters of a set that is to have a length. -/
def expandSet (length : Nat) (parts : List SetPart) : List Char :=
  let used := (parts.flatMap (SetPart.toChars 0)).length
  parts.flatMap (SetPart.toChars (length - used))

/-! ## Exchanges -/

/-- What becomes of each byte. -/
structure Exchange where
  /-- the new value of each byte -/
  table : Array UInt8
  /-- bytes that are left out -/
  deleted : Array Bool
  /-- bytes of which runs become one -/
  squeezed : Array Bool

/-- Changes some bytes; the last byte written before is kept in mind. -/
def Exchange.apply (t : Exchange) (last : Option UInt8) (bytes : ByteArray) :
    ByteArray × Option UInt8 :=
  bytes.foldl (fun (out, last) b =>
    if t.deleted.getD b.toNat false then (out, last)
    else
      let c := t.table.getD b.toNat b
      if t.squeezed.getD c.toNat false && last == some c then (out, last)
      else (out.push c, some c)) (.empty, last)

/-- Changes some bytes where none are left out and no runs become one. -/
def Exchange.mapBytes (t : Exchange) (bytes : ByteArray) : ByteArray :=
  bytes.foldl (fun out b => out.push (t.table.getD b.toNat b)) (.emptyWithCapacity bytes.size)

/-- A byte for each byte. -/
def byteTable (f : UInt8 → UInt8) : Array UInt8 := Array.ofFn fun i : Fin 256 => f (.ofNat i.val)

/-- The bytes that are in a set. -/
def among (cs : List Char) : Array Bool :=
  cs.foldl (fun a c => a.setIfInBounds c.toNat true) (Array.replicate 256 false)

/-- The exchange that options and sets ask for. -/
def exchangeOf (s : Settings) (first : List Char) (second : List SetPart) : Exchange :=
  let firstSet := if s.has 'c' || s.has 'C' then
      ((List.range 256).map Char.ofNat).filter fun c => !first.contains c
    else first
  let secondSet := expandSet firstSet.length second
  let padding := match s.has 't', secondSet.getLast? with
    | false, some last => List.replicate (firstSet.length - secondSet.length) last
    | _, _ => []
  let table := if s.has 'd' then byteTable id
    else (firstSet.zip (secondSet ++ padding)).foldl (fun (a : Array UInt8) (c, d) =>
      a.setIfInBounds c.toNat (UInt8.ofNat d.toNat)) (byteTable id)
  { table
    deleted := among (if s.has 'd' then firstSet else [])
    squeezed := among (if !s.has 's' then []
      else if second.isEmpty then firstSet else secondSet) }

/-- What is wrong with the sets. -/
def setFault? (s : Settings) (first : List SetPart) (second : Option (List SetPart)) :
    Option String :=
  let isFiller : SetPart → Bool
    | .filler _ => true
    | _ => false
  let isOdd : SetPart → Bool
    | .named name => name != "upper" && name != "lower"
    | _ => false
  let translating := !s.has 'd' && second.isSome
  if first.any isFiller then some "the [c*] repeat construct may not appear in string1"
  else if translating ∧ (second.getD []).any isOdd then
    some ("when translating, the only character classes that may appear in\n" ++
      "string2 are 'upper' and 'lower'")
  else if translating ∧ !s.has 't' ∧ !first.isEmpty ∧ (second.getD []).isEmpty then
    some "when not truncating set1, string2 must be non-empty"
  else none

/-- Warns of a backslash at the end of an argument. -/
def warnBackslash (name argument : String) : Act Unit := do
  if (argument.toList.reverse.takeWhile (· == '\\')).length % 2 = 1 then
    report name "warning: an unescaped backslash at end of string is not portable"

/-- Changes everything that is read. -/
def exchangeAll (name : String) (s : Settings) (t : Exchange) : Act Nat := do
  let simple := !s.has 'd' && !s.has 's'
  let change (last : Option UInt8) (bytes : ByteArray) :=
    if simple then (t.mapBytes bytes, last) else t.apply last bytes
  match ← copyStream change 0 1 none with
  | .ok _ => return 0
  | .error e => do
    report name ("write error: " ++ e.text)
    return 1

/-- Changes or leaves out characters. -/
def tr : Tool := fun arguments _ =>
  withOptions
    { flags := "cCdst"
      long := [("complement", 'c'), ("delete", 'd'), ("squeeze-repeats", 's'),
        ("truncate-set1", 't')]
      anywhere := false } 1 arguments fun name s => do
    let deletes := s.has 'd'
    let squeezes := s.has 's'
    let most := if deletes && !squeezes then 1 else 2
    let least := if deletes == squeezes then 2 else 1
    match s.operands with
    | [] => usageError name "missing operand" 1
    | first :: more =>
      if let some extra := s.operands[most]? then
        usageError name ("extra operand " ++ quotedArgument extra ++
          if more.length = 1 then
            "\nOnly one string may be given when deleting without squeezing repeats."
          else "") 1
      else if s.operands.length < least then
        usageError name ("missing operand after " ++ quotedArgument first ++
          "\nTwo strings must be given when " ++
            (if squeezes then "both deleting and squeezing repeats." else "translating.")) 1
      else do
        warnBackslash name first
        match readSet first with
        | .error message => do
          report name message
          return 1
        | .ok one =>
          if let some text := more.head? then warnBackslash name text
          match (more.head?).mapM readSet with
          | .error message => do
            report name message
            return 1
          | .ok two =>
            if let some message := setFault? s one two then
              report name message
              return 1
            exchangeAll name s (exchangeOf s (expandSet 0 one) (two.getD []))

end Overseer.Tools
