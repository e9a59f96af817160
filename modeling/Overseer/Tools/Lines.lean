import Overseer.Tools.Console
import Overseer.Tools.Printf

/-!
# Tools for lines

Tools that work on whole lines: they count, order, choose and cut them.

## Main definitions

* `seq`, `sort`, `uniq`, `cut`, `rev`, `tac`, `nl` — the tools
-/

namespace Overseer.Tools

open Overseer.Host Overseer.Os

/-! ## Sequences -/

/-- A decimal number and how many digits stand behind its point. -/
structure Measured where
  /-- all digits, with their sign -/
  digits : Int
  /-- how many of them stand behind the point -/
  places : Nat
  deriving Repr

/-- A decimal number times a power of ten. -/
def Measured.timesTen (m : Measured) (exponent : Int) : Measured :=
  if exponent < 0 then { m with places := m.places + exponent.natAbs }
  else
    let n := exponent.natAbs
    ⟨m.digits * powerOfTen (n - m.places), m.places - n⟩

/-- The power of ten that a text behind a number gives. -/
def exponent? : List Char → Option Int
  | [] => some 0
  | e :: rest => if e = 'e' ∨ e = 'E' then integerOf? (String.ofList rest) else none

/-- The number that a text is. -/
def measured? (text : String) : Option Measured :=
  let chars := text.toList
  let negative := chars.head? == some '-'
  let unsigned := if negative || chars.head? == some '+' then chars.drop 1 else chars
  let whole := unsigned.takeWhile Char.isDigit
  let rest := unsigned.drop whole.length
  let (fraction, rest) := match rest with
    | '.' :: more => (more.takeWhile Char.isDigit, more.dropWhile Char.isDigit)
    | rest => ([], rest)
  match unsigned with
  | '0' :: x :: digits =>
    let (n, behind) := digitsFrom 16 0 digits.length digits
    if (x = 'x' ∨ x = 'X') ∧ behind.isEmpty ∧ !digits.isEmpty then
      some ⟨if negative then -n else n, 0⟩
    else decimal negative whole fraction rest
  | _ => decimal negative whole fraction rest
where
  /-- The decimal number with some digits before and behind its point. -/
  decimal (negative : Bool) (whole fraction rest : List Char) : Option Measured := do
    if whole.isEmpty ∧ fraction.isEmpty then none
    let exponent ← exponent? rest
    let n := (String.ofList (whole ++ fraction)).toNat?.getD 0
    return Measured.timesTen ⟨if negative then -n else n, fraction.length⟩ exponent

/-- A decimal number with so many digits behind the point. -/
def Measured.scaledTo (places : Nat) (m : Measured) : Int :=
  m.digits * powerOfTen (places - m.places)

/-- The text of a number of which so many digits stand behind the point, filled up to a width. -/
def placedText (places width : Nat) (n : Int) : String :=
  let text := fixedText places ⟨false, n.natAbs, -(places : Int)⟩
  let sign := if n < 0 then "-" else ""
  sign ++ "".pushn '0' (width - text.length - sign.length) ++ text

/-- Numbers from one to another as texts, in portions. -/
def writeSequence (last step : Int) (show_ : Int → String) (separator : String) :
    Nat → Int → (first : Bool) → (sofar : List String) → Nat → Act (Except Errno Bool)
  | 0, _, first, _, _ => return .ok first
  | n + 1, i, first, sofar, size => do
    if (0 < step ∧ last < i) ∨ (step < 0 ∧ i < last) then
      match ← writeText 1 (String.join sofar.reverse) with
      | .ok () => return .ok first
      | .error e => return .error e
    else
      let text := (if first then "" else separator) ++ show_ i
      if size + text.length > portionSize then
        match ← writeText 1 (String.join (text :: sofar).reverse) with
        | .ok () => writeSequence last step show_ separator n (i + step) false [] 0
        | .error e => return .error e
      else
        writeSequence last step show_ separator n (i + step) false (text :: sofar)
          (size + text.length)

/-- Writes numbers from one to another. -/
def seq : Tool := fun arguments _ =>
  let options := (arguments.drop 1).takeWhile fun a =>
    a.startsWith "-" && (measured? a).isNone || (measured? a).isNone
  let operands := arguments.drop (1 + options.length)
  let known : Known :=
    { flags := "w", valued := "sf", long := [("separator", 's'), ("equal-width", 'w')] }
  match readOptions known options with
  | .error e => usageError (arguments.headD "") e 1
  | .ok s => do
    let name := arguments.headD ""
    let operands := s.operands ++ operands
    match operands.find? fun o => (measured? o).isNone with
    | some bad => usageError name ("invalid floating point argument: " ++ quotedArgument bad) 1
    | none =>
      match operands.filterMap measured? with
      | [] => usageError name "missing operand" 1
      | [last] => run name s ⟨1, 0⟩ ⟨1, 0⟩ last
      | [first, last] => run name s first ⟨1, 0⟩ last
      | [first, step, last] => run name s first step last
      | _ => usageError name ("extra operand " ++ quotedArgument (operands.getD 3 "")) 1
where
  /-- Writes the numbers. -/
  run (name : String) (s : Settings) (first step last : Measured) : Act Nat := do
    let places := max first.places step.places
    let scale := max places last.places
    let a := first.scaledTo scale
    let d := step.scaledTo scale
    let b := last.scaledTo scale
    if d = 0 then
      return ← usageError name "invalid Zero increment value: '0'" 1
    let drop (n : Int) : Int := n / powerOfTen (scale - places)
    let width := if s.has 'w' then
        let count := (b - a) / d
        let last := a + count * d
        max (placedText places 0 (drop a)).length (placedText places 0 (drop last)).length
      else 0
    let separator := (s.value? 's').getD "\n"
    let show_ (n : Int) : String := match s.value? 'f' with
      | some format => (printFormat .tool format [placedText places 0 (drop n)]).text
      | none => placedText places width (drop n)
    match ← writeSequence b d show_ separator manyTimes a true [] 0 with
    | .ok true => return 0
    | .ok false => say name "\n" 0
    | .error e => do
      report name ("write error: " ++ e.text)
      return 1

/-! ## Order -/

/-- What lines are compared by. -/
structure SortKey where
  /-- the first field, from 1 on -/
  start : Nat := 1
  /-- the last field, or none for the whole rest -/
  stop : Option Nat := none
  /-- as numbers -/
  numeric : Bool := false
  /-- backwards -/
  reverse : Bool := false
  /-- without regard to case -/
  fold : Bool := false
  /-- without the blanks at the beginning -/
  blanks : Bool := false
  deriving Repr

/-- The fields of a line; without a separator each begins with the blanks before it. -/
def sortFields (separator : Option Char) (line : List Char) : List (List Char) :=
  match separator with
  | some c => line.splitOn c
  | none =>
    let blank (c : Char) : Bool := c == ' ' || c == '\t'
    let rec go : Nat → List Char → List (List Char)
      | 0, _ | _, [] => []
      | n + 1, text =>
        let before := text.takeWhile blank
        let word := (text.drop before.length).takeWhile (!blank ·)
        (before ++ word) :: go n (text.drop (before.length + word.length))
    go (line.length + 1) line

/-- The part of a line that a key looks at. -/
def SortKey.part (separator : Option Char) (k : SortKey) (line : List Char) : List Char :=
  if k.start = 1 ∧ k.stop.isNone then line
  else
    let fields := (sortFields separator line).drop (k.start - 1)
    let chosen := match k.stop with
      | some stop => fields.take (stop + 1 - k.start)
      | none => fields
    List.intercalate (separator.map (fun c => [c]) |>.getD []) chosen

/-- The number at the start of a text. -/
def leadingNumber (text : List Char) : Measured :=
  let text := text.dropWhile fun c => c == ' ' || c == '\t'
  let sign := if text.head? == some '-' then 1 else 0
  let whole := (text.drop sign).takeWhile Char.isDigit
  let fraction := match text.drop (sign + whole.length) with
    | '.' :: more => more.takeWhile Char.isDigit
    | _ => []
  let n := (String.ofList (whole ++ fraction)).toNat?.getD 0
  ⟨if sign = 1 then -n else n, fraction.length⟩

/-- How two texts compare under a key. -/
def SortKey.compareParts (k : SortKey) (a b : List Char) : Ordering :=
  let result :=
    if k.numeric then
      let x := leadingNumber a
      let y := leadingNumber b
      let places := max x.places y.places
      compare (x.scaledTo places) (y.scaledTo places)
    else
      let prepare (t : List Char) : String :=
        let t := if k.blanks then t.dropWhile fun c => c == ' ' || c == '\t' else t
        String.ofList (if k.fold then t.map Char.toUpper else t)
      compare (prepare a) (prepare b)
  if k.reverse then result.swap else result

/-- How two lines compare under some keys. -/
def compareKeys (separator : Option Char) (a b : List Char) : List SortKey → Ordering
  | [] => .eq
  | k :: rest =>
    match k.compareParts (k.part separator a) (k.part separator b) with
    | .eq => compareKeys separator a b rest
    | o => o

/-- A key as options give it, with the usual properties where it has none of its own. -/
def keyOf? (usual : SortKey) (text : String) : Option SortKey :=
  let side (t : String) : Option (Nat × List Char) :=
    let digits := t.toList.takeWhile Char.isDigit
    let rest := t.toList.drop digits.length
    let rest := match rest with
      | '.' :: more => more.dropWhile Char.isDigit
      | rest => rest
    (String.ofList digits).toNat?.map (·, rest)
  match (text.splitOn ",").map side with
  | [some (start, letters)] => some (with_ letters { usual with start })
  | [some (start, letters), some (stop, more)] =>
    some (with_ (letters ++ more) { usual with start, stop := some stop })
  | _ => none
where
  /-- A key with the properties of letters. -/
  with_ (letters : List Char) (k : SortKey) : SortKey :=
    if letters.isEmpty then k
    else
      { k with
        numeric := letters.contains 'n', reverse := letters.contains 'r'
        fold := letters.contains 'f', blanks := letters.contains 'b' }

/-- Lines without those that are equal to the one before them. -/
def withoutRepeats (same : String → String → Bool) : List String → List String
  | a :: b :: rest =>
    if same a b then withoutRepeats same (a :: rest) else a :: withoutRepeats same (b :: rest)
  | lines => lines
termination_by lines => lines.length

/-- Puts lines in order. -/
def sort : Tool := fun arguments _ =>
  withOptions
    { flags := "rnufbsgVhdiM", valued := "kto"
      long := [("reverse", 'r'), ("numeric-sort", 'n'), ("unique", 'u'), ("key", 'k'),
        ("field-separator", 't'), ("output", 'o'), ("ignore-case", 'f'), ("stable", 's')] }
    2 arguments fun name s => do
      let (bytes, code) ← readInputs name
        (fun operand e => (if e = .isDirectory then "read failed: " else "cannot read: ") ++
          plainFailure operand e) (inputs s)
      if code ≠ 0 then return 2
      let usual : SortKey :=
        { numeric := s.has 'n' || s.has 'g' || s.has 'h' || s.has 'V', fold := s.has 'f'
          blanks := s.has 'b' }
      let given := s.options.filterMap fun (c, v) => if c = 'k' then v else none
      if let some bad := given.find? fun k => (keyOf? {} k).isNone then
        report name ("invalid number at field start: invalid count at start of " ++
          quotedArgument bad)
        return 2
      if let some bad := given.find? fun k => (keyOf? {} k).any (·.start == 0) then
        report name ("-: invalid field specification " ++ quotedArgument bad)
        return 2
      let keys := given.filterMap (keyOf? { usual with reverse := s.has 'r' })
      let keys := if keys.isEmpty then [{ usual with reverse := s.has 'r' }] else keys
      let separator := (s.value? 't').bind (·.toList.head?)
      let order (a b : String) : Ordering :=
        match compareKeys separator a.toList b.toList keys with
        | .eq =>
          if s.has 'u' ∨ s.has 's' then .eq
          else if s.has 'r' then (compare a b).swap else compare a b
        | o => o
      let sorted := (linesOf (octets bytes)).mergeSort fun a b => order a b != .gt
      let kept := if s.has 'u' then
          withoutRepeats (fun a b => compareKeys separator a.toList b.toList keys == .eq) sorted
        else sorted
      match s.value? 'o' with
      | none => say name (unlines kept) 0
      | some path =>
        match ← Act.call (.openFile path { write := true, create := true, truncate := true }) with
        | .ok fd => do
          let _ ← writeText fd (unlines kept)
          return 0
        | .error e => do
          report name ("open failed: " ++ plainFailure path e)
          return 2

/-- Runs of equal lines, each with its length. -/
def runsOf (same : String → String → Bool) : List String → List (Nat × String)
  | [] => []
  | line :: rest =>
    match runsOf same rest with
    | (n, other) :: more =>
      if same line other then (n + 1, line) :: more else (1, line) :: (n, other) :: more
    | [] => [(1, line)]

/-- Writes each run of equal lines once. -/
def uniq : Tool := fun arguments _ =>
  withOptions { flags := "cdui", long := [("count", 'c'), ("repeated", 'd'), ("unique", 'u')] } 1
    arguments fun name s => do
      let operand := s.operands.headD "-"
      match ← readInput operand with
      | .error e => do
        report name (plainFailure operand e)
        return 1
      | .ok bytes =>
        let key (line : String) : String :=
          if s.has 'i' then String.ofList (line.toList.map Char.toLower) else line
        let runs := runsOf (fun a b => key a == key b) (linesOf (octets bytes))
        let runs := runs.filter fun (n, _) =>
          (!s.has 'd' || 1 < n) && (!s.has 'u' || n == 1)
        let show_ (n : Nat) (line : String) : String :=
          if s.has 'c' then
            let count := toString n
            "".pushn ' ' (7 - count.length) ++ count ++ " " ++ line
          else line
        say name (unlines (runs.map fun (n, line) => show_ n line)) 0

/-! ## Columns -/

/-- Positions from one to another; without an end all that follow. -/
abbrev Range := Nat × Option Nat

/-- What a part of a list has named so far. -/
structure RangeReading where
  /-- the number before the dash, if there are digits before it -/
  first : Option Nat := none
  /-- a dash has been read -/
  dash : Bool := false
  /-- the number behind the dash, if there are digits behind it -/
  last : Option Nat := none

namespace RangeReading

/-- With one more digit. -/
def digit (r : RangeReading) (d : Nat) : RangeReading :=
  if r.dash then { r with last := some (r.last.getD 0 * 10 + d) }
  else { r with first := some (r.first.getD 0 * 10 + d) }

/-- Numbers are counted from 1. -/
def fromOne (fields : Bool) : String :=
  if fields then "fields are numbered from 1" else "byte/character positions are numbered from 1"

/-- The range that has been named. -/
def range (fields : Bool) (r : RangeReading) : Except String Range :=
  match r.dash, r.first, r.last with
  | false, first, _ =>
    match first.getD 0 with
    | 0 => .error (fromOne fields)
    | n + 1 => .ok (n + 1, some (n + 1))
  | true, none, none => .error "invalid range with no endpoint: -"
  | true, first, none => .ok (first.getD 1, none)
  | true, first, some last =>
    if last < first.getD 1 then .error "invalid decreasing range"
    else .ok (first.getD 1, some last)

end RangeReading

/-- The ranges that a list names, the first part of which has been read so far. -/
def readRanges (fields : Bool) (r : RangeReading) : List Char → Except String (List Range)
  | [] => return [← r.range fields]
  | c :: rest =>
    if c = '-' then
      if r.dash then
        .error (if fields then "invalid field range" else "invalid byte or character range")
      else if r.first = some 0 then .error (RangeReading.fromOne fields)
      else readRanges fields { r with dash := true } rest
    else if c = ',' ∨ c = ' ' ∨ c = '\t' then do
      let range ← r.range fields
      return range :: (← readRanges fields {} rest)
    else if c.isDigit then readRanges fields (r.digit (c.toNat - '0'.toNat)) rest
    else
      .error ((if fields then "invalid field value " else "invalid byte/character position ") ++
        quotedArgument (String.ofList (c :: rest)))

/-- The elements at positions that are in some range, or with `others` those that are in none. -/
def chosen {α : Type} (others : Bool) (ranges : List Range) (elements : List α) : List α :=
  ((List.range elements.length).zip elements).filterMap fun (i, a) =>
    let inside := ranges.any fun (first, last) => first ≤ i + 1 ∧ last.all (i + 1 ≤ ·)
    if inside != others then some a else none

/-- What is wrong with the options of `cut`. -/
def cutFault? (s : Settings) : Option String :=
  let lists := s.options.filter fun (c, _) => c == 'f' || c == 'c' || c == 'b'
  if lists.length > 1 then some "only one list may be specified"
  else if lists.isEmpty then some "you must specify a list of bytes, characters, or fields"
  else if ((s.value? 'd').getD "\t").length > 1 then
    some "the delimiter must be a single character"
  else if s.has 'd' ∧ !s.has 'f' then
    some "an input delimiter may be specified only when operating on fields"
  else if s.has 's' ∧ !s.has 'f' then
    some "suppressing non-delimited lines makes sense\n\tonly when operating on fields"
  else none

/-- The letter under which the option for the delimiter of the output is kept. -/
def outputDelimiter : Char := '\x01'

/-- The letter under which the option for all other columns is kept. -/
def otherColumns : Char := '\x02'

/-- Cuts columns out of lines. -/
def cut : Tool := fun arguments _ =>
  withOptions
    { flags := "sn\x02", valued := "bcdf\x01"
      long := [("delimiter", 'd'), ("fields", 'f'), ("bytes", 'b'), ("characters", 'c'),
        ("only-delimited", 's'), ("output-delimiter", outputDelimiter),
        ("complement", otherColumns)] } 1 arguments fun name s => do
      let fields := s.has 'f'
      let list := (s.value? 'f').or ((s.value? 'c').or (s.value? 'b'))
      match cutFault? s, readRanges fields {} (list.getD "").toList with
      | some fault, _ | none, .error fault => usageError name fault 1
      | none, .ok ranges =>
        let delimiter := (((s.value? 'd').getD "\t").toList.head?).getD '\x00'
        let between := (s.value? outputDelimiter).getD delimiter.toString
        let others := s.has otherColumns
        let one (line : String) : Option String :=
          if fields then
            let parts := line.toList.splitOn delimiter
            if parts.length = 1 then if s.has 's' then none else some line
            else some (between.intercalate ((chosen others ranges parts).map String.ofList))
          else some (String.ofList (chosen others ranges line.toList))
        eachInput name plainFailure (fun _ bytes =>
          say name (unlines ((linesOf (octets bytes)).filterMap one)) 0) (inputs s)

/-- Writes the characters of each line backwards. -/
def rev : Tool := fun arguments _ =>
  withOptions {} 1 arguments fun name s =>
    eachInput name (fun operand e => "cannot open " ++ operand ++ ": " ++ e.text) (fun _ bytes =>
      let text := octets bytes
      let lines := (linesOf text).map fun line => String.ofList line.toList.reverse
      say name (if text.endsWith "\n" then unlines lines else "\n".intercalate lines) 0) (inputs s)

/-- Writes lines in reverse order. -/
def tac : Tool := fun arguments _ =>
  withOptions { valued := "s" } 1 arguments fun name s =>
    eachInput name (fun operand e => "failed to open " ++ quotedName operand ++ " for reading: " ++ e.text)
      (fun _ bytes =>
        let text := octets bytes
        let lines := (linesOf text).reverse
        let text := if text.isEmpty ∨ text.endsWith "\n" then unlines lines
          else match lines with
            | last :: rest => last ++ unlines rest
            | [] => ""
        say name text 0) (inputs s)

/-- Numbers lines that are not empty. -/
def nl : Tool := fun arguments _ =>
  withOptions { valued := "bwsvi" } 1 arguments fun name s =>
    eachInput name plainFailure (fun _ bytes =>
      let all := s.value? 'b' == some "a"
      let width := ((s.value? 'w').bind (·.toNat?)).getD 6
      let separator := (s.value? 's').getD "\t"
      let rec go : Nat → List String → List String
        | _, [] => []
        | n, line :: rest =>
          if line.isEmpty ∧ !all then ("".pushn ' ' (width + separator.length)) :: go n rest
          else
            let number := toString n
            ("".pushn ' ' (width - number.length) ++ number ++ separator ++ line) :: go (n + 1) rest
      say name (unlines (go 1 (linesOf (octets bytes)))) 0) (inputs s)

end Overseer.Tools
