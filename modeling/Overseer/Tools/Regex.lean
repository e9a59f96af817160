import Overseer.Tools.Console
import Overseer.Tools.Exchange

/-!
# Regular expressions

Regular expressions are read in one of two notations and matched against lines.  Of all matches that
begin first the longest one counts.

## Main definitions

* `Regex`, `readRegex` — regular expressions
* `Regex.results` — the ways in which one can match
* `findMatch?` — the match that counts
* `grep` — the tool that chooses lines
-/

namespace Overseer.Tools

open Overseer.Host Overseer.Os

/-- A regular expression. -/
inductive Regex where
  | empty
  | one (c : Char)
  | any
  /-- a character that is among some, or not -/
  | set (negated : Bool) (chars : List Char)
  | start
  | stop
  | seq (a b : Regex)
  | either (a b : Regex)
  /-- repeated at least and at most so often -/
  | repeated (e : Regex) (least : Nat) (most : Option Nat)
  /-- a part that is remembered under a number -/
  | group (number : Nat) (e : Regex)
  deriving Inhabited, Repr

/-! ## Reading -/

/-- The characters of a set, behind its opening bracket, and what is behind it; at most so many
pieces. -/
def bracketChars : Nat → (first : Bool) → List Char → Option (List Char × List Char)
  | 0, _, _ | _, _, [] => none
  | n + 1, first, text =>
    match text with
    | ']' :: rest => if first then next n ']' rest else some ([], rest)
    | '[' :: ':' :: rest =>
      let name := rest.takeWhile (· != ':')
      match rest.drop name.length with
      | ':' :: ']' :: behind =>
        (bracketChars n false behind).map fun (cs, rest) =>
          (classChars (String.ofList name) ++ cs, rest)
      | _ => next n '[' (':' :: rest)
    | c :: rest => next n c rest
    | [] => none
where
  /-- A character that may begin a range. -/
  next (n : Nat) (c : Char) (rest : List Char) : Option (List Char × List Char) :=
    match rest with
    | '-' :: d :: behind =>
      if d = ']' then (bracketChars n false rest).map fun (cs, rest) => (c :: cs, rest)
      else
        let range := (List.range (d.toNat + 1 - c.toNat)).map fun i => Char.ofNat (c.toNat + i)
        (bracketChars n false behind).map fun (cs, rest) => (range ++ cs, rest)
    | _ => (bracketChars n false rest).map fun (cs, rest) => (c :: cs, rest)

/-- The bounds of a repetition, behind the opening brace, and what is behind them. -/
def boundsAt (extended : Bool) (text : List Char) : Option ((Nat × Option Nat) × List Char) :=
  let low := text.takeWhile Char.isDigit
  let rest := text.drop low.length
  let least := (String.ofList low).toNat?.getD 0
  let (most, rest) := match rest with
    | ',' :: more =>
      let high := more.takeWhile Char.isDigit
      ((String.ofList high).toNat?, more.drop high.length)
    | rest => (some least, rest)
  match extended, rest with
  | true, '\x7d' :: behind => some ((least, most), behind)
  | false, '\\' :: '\x7d' :: behind => some ((least, most), behind)
  | _, _ => none

/-- The state of reading. -/
structure RegexInput where
  /-- what is left -/
  rest : List Char
  /-- the number of the next group -/
  next : Nat := 1

/-- A step of reading a regular expression; nothing if the text is none. -/
abbrev RegexReader (α : Type) := StateT RegexInput Option α

mutual

/-- Reads alternatives; each level of nesting takes from the first argument. -/
def readAlternatives (extended : Bool) : Nat → RegexReader Regex
  | 0 => failure
  | n + 1 => do
    let a ← readConcatenation extended n .empty true
    match extended, (← get).rest with
    | true, '|' :: rest =>
      modify fun i => { i with rest }
      return .either a (← readAlternatives extended n)
    | false, '\\' :: '|' :: rest =>
      modify fun i => { i with rest }
      return .either a (← readAlternatives extended n)
    | _, _ => return a

/-- Reads what follows `sofar`; `first` says that nothing has been read yet. -/
def readConcatenation (extended : Bool) : Nat → Regex → (first : Bool) → RegexReader Regex
  | 0, _, _ => failure
  | n + 1, sofar, first => do
    let i ← get
    let go (e : Regex) (rest : List Char) : RegexReader Regex := do
      modify fun i => { i with rest }
      let e ← readRepetition extended n e
      readConcatenation extended n (.seq sofar e) false
    match extended, i.rest with
    | _, [] => return sofar
    | true, '|' :: _ | true, ')' :: _ => return sofar
    | false, '\\' :: '|' :: _ | false, '\\' :: ')' :: _ => return sofar
    | true, '(' :: rest | false, '\\' :: '(' :: rest =>
      let number := i.next
      set ({ rest, next := number + 1 } : RegexInput)
      let e ← readAlternatives extended n
      match extended, (← get).rest with
      | true, ')' :: rest | false, '\\' :: ')' :: rest => go (.group number e) rest
      | _, _ => failure
    | _, '[' :: '^' :: rest =>
      let (cs, rest) ← liftM (bracketChars (rest.length + 1) true rest)
      go (.set true cs) rest
    | _, '[' :: rest =>
      let (cs, rest) ← liftM (bracketChars (rest.length + 1) true rest)
      go (.set false cs) rest
    | _, '.' :: rest => go .any rest
    | _, '^' :: rest =>
      if extended ∨ first then
        modify fun i => { i with rest }
        readConcatenation extended n (.seq sofar .start) true
      else go (.one '^') rest
    | _, '$' :: rest =>
      let last := rest.isEmpty ∨ "\\)".toList.isPrefixOf rest
      if extended ∨ last then go .stop rest else go (.one '$') rest
    | _, '\\' :: 'n' :: rest => go (.one '\n') rest
    | _, '\\' :: 't' :: rest => go (.one '\t') rest
    | _, '\\' :: 'w' :: rest => go (.set false ('_' :: classChars "alnum")) rest
    | _, '\\' :: 's' :: rest => go (.set false (classChars "space")) rest
    | _, '\\' :: c :: rest => go (.one c) rest
    | _, c :: rest => go (.one c) rest

/-- Reads how often an expression is repeated. -/
def readRepetition (extended : Bool) : Nat → Regex → RegexReader Regex
  | 0, _ => failure
  | n + 1, e => do
    let i ← get
    let go (least : Nat) (most : Option Nat) (rest : List Char) : RegexReader Regex := do
      modify fun i => { i with rest }
      readRepetition extended n (.repeated e least most)
    match extended, i.rest with
    | _, '*' :: rest => go 0 none rest
    | true, '+' :: rest | false, '\\' :: '+' :: rest => go 1 none rest
    | true, '?' :: rest | false, '\\' :: '?' :: rest => go 0 (some 1) rest
    | true, '\x7b' :: rest | false, '\\' :: '\x7b' :: rest =>
      let ((least, most), rest) ← liftM (boundsAt extended rest)
      go least most rest
    | _, _ => return e

end

/-- The regular expression that a text is. -/
def readRegex (extended : Bool) (text : String) : Option Regex := do
  let chars := text.toList
  let star : Option Char := if extended then none else chars.head?.filter (· == '*')
  let input := if star.isSome then '\\' :: chars else chars
  let (e, i) ← (readAlternatives extended (8 * chars.length + 8)).run { rest := input }
  if i.rest.isEmpty then some e else none

/-! ## Matching -/

/-- A place in a line, and the parts that have been remembered. -/
structure Progress where
  /-- how many characters have been passed -/
  position : Nat
  /-- what is left -/
  rest : List Char
  /-- where the parts of each number begin and what they are -/
  parts : List (Nat × List Char) := []
  deriving Inhabited

/-- The ways in which a repetition can go on. -/
def repeatResults (one : Progress → List Progress) : Nat → (least : Nat) → Option Nat → Progress →
    List Progress
  | 0, _, _, p => [p]
  | n + 1, least, most, p =>
    if most = some 0 then [p]
    else
      let further := (one p).filter fun q => p.position < q.position || 0 < least
      let more := further.flatMap fun q =>
        repeatResults one n (least - 1) (most.map (· - 1)) q
      if least = 0 then more ++ [p] else more

/-- The ways in which a regular expression can match from a place on. -/
def Regex.results (fold : Bool) : Regex → Progress → List Progress
  | .empty, p => [p]
  | .one c, p =>
    match p.rest with
    | d :: rest =>
      let same := c = d ∨ (fold ∧ c.toLower = d.toLower)
      if same then [{ p with position := p.position + 1, rest }] else []
    | [] => []
  | .any, p =>
    match p.rest with
    | _ :: rest => [{ p with position := p.position + 1, rest }]
    | [] => []
  | .set negated chars, p =>
    match p.rest with
    | d :: rest =>
      let found := chars.contains d ||
        (fold && (chars.contains d.toLower || chars.contains d.toUpper))
      if found != negated then [{ p with position := p.position + 1, rest }] else []
    | [] => []
  | .start, p => if p.position = 0 then [p] else []
  | .stop, p => if p.rest.isEmpty then [p] else []
  | .seq a b, p => (a.results fold p).flatMap (b.results fold)
  | .either a b, p => a.results fold p ++ b.results fold p
  | .repeated e least most, p => repeatResults (e.results fold) (p.rest.length + 1) least most p
  | .group number e, p =>
    (e.results fold p).map fun q =>
      let text := p.rest.take (q.position - p.position)
      { q with parts := (number, text) :: q.parts.filter (·.1 != number) }

/-- A match in a line. -/
structure Match where
  /-- where it begins -/
  start : Nat
  /-- what comes behind it -/
  behind : Progress
  deriving Inhabited

/-- The longest way to go on. -/
def longest : List Progress → Option Progress
  | [] => none
  | p :: rest =>
    match longest rest with
    | some q => if p.position < q.position then some q else some p
    | none => some p

/-- The match that counts, from a place on. -/
def findMatch? (fold : Bool) (e : Regex) : (position : Nat) → List Char → Option Match
  | position, rest =>
    match longest (e.results fold { position, rest }) with
    | some behind => some { start := position, behind }
    | none =>
      match rest with
      | [] => none
      | _ :: more => findMatch? fold e (position + 1) more
termination_by _ rest => rest.length

/-! ## Choosing lines -/

/-- Whether a match is not part of a larger word. -/
def isWholeWord (line : List Char) (m : Match) : Bool :=
  let wordChar (c : Char) : Bool := c.isAlphanum || c == '_'
  !((line.take m.start).getLast?.any wordChar) && !(m.behind.rest.head?.any wordChar)

/-- Quotes a text so that it stands for itself. -/
def quotedRegex (text : String) : Regex :=
  text.toList.foldl (fun e c => .seq e (.one c)) .empty

/-- All matches in a line that are not empty, at most so many. -/
def allMatches (fold : Bool) (e : Regex) : Nat → Nat → List Char → List String
  | 0, _, _ => []
  | n + 1, position, rest =>
    match findMatch? fold e position rest with
    | none => []
    | some m =>
      let skipped := rest.drop (m.start - position)
      let text := skipped.take (m.behind.position - m.start)
      if text.isEmpty then
        match skipped with
        | [] => []
        | _ :: more => allMatches fold e n (m.start + 1) more
      else String.ofList text :: allMatches fold e n m.behind.position m.behind.rest

/-- The options of `grep`. -/
def grepOptions : Known :=
  { flags := "EFGivncqsowxhHlLraIUyzbTPZ", valued := "emABCdDf"
    long := [("extended-regexp", 'E'), ("fixed-strings", 'F'), ("ignore-case", 'i'),
      ("invert-match", 'v'), ("count", 'c'), ("quiet", 'q'), ("silent", 'q'),
      ("only-matching", 'o'), ("line-number", 'n'), ("regexp", 'e'), ("word-regexp", 'w'),
      ("line-regexp", 'x'), ("max-count", 'm'), ("no-messages", 's'), ("files-with-matches", 'l'),
      ("no-filename", 'h'), ("with-filename", 'H'), ("text", 'a')] }

/-- Says how `grep` is used. -/
def grepUsage (name : String) : Act Nat := do
  let _ ← writeText 2 ("Usage: " ++ name ++ " [OPTION]... PATTERNS [FILE]...\n" ++
    "Try '" ++ name ++ " --help' for more information.\n")
  return 2

/-- Writes lines that match. -/
def grep : Tool := fun arguments _ =>
  let name := arguments.headD ""
  match readOptions grepOptions (arguments.drop 1) with
  | .error e => do
    report name e
    grepUsage name
  | .ok s => do
      let given := s.options.filterMap fun (c, v) => if c = 'e' then v else none
      let (patterns, files) := match given, s.operands with
        | [], p :: rest => ([p], rest)
        | ps, rest => (ps, rest)
      if patterns.isEmpty then return ← grepUsage name
      let patterns := patterns.flatMap (·.splitOn "\n")
      let read (p : String) : Option Regex :=
        if s.has 'F' then some (quotedRegex p) else readRegex (s.has 'E') p
      match patterns.mapM read with
      | none => do
        report name "Invalid regular expression"
        return 2
      | some es =>
        let e := match es with
          | [] => Regex.empty
          | first :: rest => rest.foldl .either first
        let e := if s.has 'x' then .seq .start (.seq e .stop) else e
        let fold := s.has 'i'
        let matches_ (line : String) : Bool :=
          match findMatch? fold e 0 line.toList with
          | none => false
          | some m => !s.has 'w' || isWholeWord line.toList m
        let titles := (files.length > 1 || s.has 'H') && !s.has 'h'
        let inputs := if files.isEmpty then ["-"] else files
        let rec go : List String → (found bad : Bool) → Act Nat
          | [], found, bad => return if bad then 2 else if found then 0 else 1
          | operand :: rest, found, bad => do
            match ← readInput operand with
            | .error err => do
              if !s.has 's' then report name (operand ++ ": " ++ err.text)
              go rest found true
            | .ok bytes => do
              let lines := linesOf (octets bytes)
              let numbered := (List.range lines.length).zip lines
              let hits := numbered.filter fun (_, line) => matches_ line != s.has 'v'
              let hits := match (s.value? 'm').bind (·.toNat?) with
                | some n => hits.take n
                | none => hits
              let source := if operand = "-" then "(standard input)" else operand
              let title := if titles then source ++ ":" else ""
              if s.has 'q' then
                if hits.isEmpty then go rest found bad else return 0
              else if s.has 'l' then do
                if !hits.isEmpty then
                  let _ ← say name (operand ++ "\n") 0
                go rest (found || !hits.isEmpty) bad
              else if s.has 'c' then do
                let _ ← say name (title ++ toString hits.length ++ "\n") 0
                go rest (found || !hits.isEmpty) bad
              else do
                let show_ (i : Nat) (line : String) : List String :=
                  let head := title ++ if s.has 'n' then toString (i + 1) ++ ":" else ""
                  if s.has 'o' then
                    (allMatches fold e (line.length + 1) 0 line.toList).map (head ++ ·)
                  else [head ++ line]
                let code ← say name (unlines (hits.flatMap fun (i, line) => show_ i line)) 0
                if code ≠ 0 then return 2
                go rest (found || !hits.isEmpty) bad
        go inputs false false

end Overseer.Tools
