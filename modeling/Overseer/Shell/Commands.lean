import Overseer.Shell.Words

/-!
# Reading commands

A text is read command by command, up to the end of a line each time, so that the first lines of a
script are carried out before a mistake in a later one is found.

## Main definitions

* `simpleCommand`, `pipeline`, `andOr`, `commandList` — commands
* `nesting` — the readers of nested words and commands
* `nextCommand?` — the next command of a text
-/

namespace Overseer.Shell

/-- Reads a word. -/
def word (inner : Nesting) : Reader Word := inner.parts .bare

/-! ## Redirections -/

/-- The operators of redirections, the longer ones first. -/
def redirectionOperators (d : Dialect) : List (String × RedirectionKind) :=
  let shared : List (String × RedirectionKind) := [("<<-", .text), ("<<", .text),
    ("<&", .copyInput), ("<>", .inputOutput), (">>", .append), (">&", .copyOutput),
    (">|", .overwrite), ("<", .input), (">", .output)]
  match d with
  | .bash => [("&>>", .appendBoth), ("&>", .outputBoth), ("<<<", .text)] ++ shared
  | .dash => shared

/-- A text without its quotes, which are taken away as they stand, and whether there were any.
`quote` is the one that is open. -/
def withoutQuotes (quote : Option Char) : List Char → List Char × Bool
  | [] => ([], false)
  | '\\' :: c :: rest =>
    let kept := match quote with
      | none => [c]
      | some '"' => if Mode.weak.escapes c then [c] else ['\\', c]
      | some _ => ['\\', c]
    let (text, _) := withoutQuotes quote rest
    (kept ++ text, true)
  | c :: rest =>
    if quote = some c then ((withoutQuotes none rest).1, true)
    else if quote.isNone ∧ (c = '\'' ∨ c = '"') then ((withoutQuotes (some c) rest).1, true)
    else
      let (text, quotes) := withoutQuotes quote rest
      (c :: text, quotes)

/-- Reads a word that has to come next. -/
def requiredWord (d : Dialect) (inner : Nesting) (expecting : Option String) : Reader Word := do
  skipBlanks
  match ← peek? with
  | none => failHere d inner expecting false
  | some c => if isMeta c then failHere d inner expecting false else word inner

/-- Reads what stands behind the operator of a text redirection. -/
def textTarget (d : Dialect) (inner : Nesting) (op : String) : Reader Word := do
  if op = "<<<" then return [.weak (← requiredWord d inner none), .quoted "\n"]
  skipBlanks
  let (mark, quotes) := withoutQuotes none (← passedBy (requiredWord d inner none))
  let body ← cutDocument d (String.ofList mark) (op = "<<-")
  if quotes then return [.quoted body]
  else return [.weak (← within body.toList (← get).line (inner.parts .wholly))]

/-- Reads a redirection if one comes next. -/
def redirection? (d : Dialect) (inner : Nesting) : Reader (Option Redirection) := do
  let rest := (← get).rest
  let digits := rest.takeWhile Char.isDigit
  let behind := rest.drop digits.length
  if d = .dash ∧ digits.length > 1 then return none
  match (redirectionOperators d).find? fun (op, _) => op.toList.isPrefixOf behind with
  | none => return none
  | some (op, kind) =>
    if !digits.isEmpty ∧ (kind = .outputBoth ∨ kind = .appendBoth) then return none
    advanceBy (digits.length + op.length)
    let fd := (String.ofList digits).toNat?
    let target ← match kind with
      | .text => textTarget d inner op
      | _ => requiredWord d inner none
    return some (.mk fd kind target)

/-- Reads at most so many redirections. -/
def redirections (d : Dialect) (inner : Nesting) : Nat → Reader (List Redirection)
  | 0 => return []
  | n + 1 => do
    skipBlanks
    match ← redirection? d inner with
    | none => return []
    | some r => return r :: (← redirections d inner n)

/-! ## Simple commands -/

/-- The pieces of a simple command, the last ones first. -/
structure Pieces where
  /-- the assignments before the first word -/
  assignments : List (String × Bool × Word) := []
  /-- the words -/
  words : List Word := []
  /-- the redirections -/
  redirections : List Redirection := []
  /-- how many pieces there are -/
  count : Nat := 0
  /-- the line in which the first piece ends, or begins if it is a redirection -/
  first : Nat := 0
  /-- the line in which the second piece ends, or the first one if it is the only one -/
  line : Nat := 0

/-- Pieces with one more, which ends in a line.  `first` is the line that counts if there are none
before it. -/
def Pieces.next (p : Pieces) (first line : Nat) : Pieces :=
  { p with
    count := p.count + 1, first := if p.count = 0 then first else p.first
    line := if p.count < 2 then line else p.line }

/-- The name of an assignment that comes next, and whether it adds to the value. -/
def assignment? (d : Dialect) : Reader (Option (String × Bool)) := do
  let rest := (← get).rest
  let name := String.ofList (rest.takeWhile isNameChar)
  if !isName name then return none
  match rest.drop name.length with
  | '=' :: _ => return some (name, false)
  | '+' :: '=' :: _ => return if d = .bash then some (name, true) else none
  | _ => return none

/-- Reads at most so many pieces of a simple command. -/
def piecesOfSimple (d : Dialect) (inner : Nesting) : Nat → Pieces → Reader Pieces
  | 0, p => return p
  | n + 1, p => do
    skipBlanks
    let start := (← get).line
    match ← redirection? d inner with
    | some r =>
      let p := { p with redirections := r :: p.redirections }
      piecesOfSimple d inner n (p.next start (← get).line)
    | none =>
      match ← peek? with
      | none => return p
      | some c =>
        if isMeta c then return p
        else match p.words, (← assignment? d) with
          | [], some (name, adds) =>
            advanceBy (name.length + if adds then 2 else 1)
            let value ← word inner
            let p := { p with assignments := (name, adds, value) :: p.assignments }
            let stop := (← get).line
            piecesOfSimple d inner n (p.next stop stop)
          | _, _ =>
            let p := { p with words := (← word inner) :: p.words }
            let stop := (← get).line
            piecesOfSimple d inner n (p.next stop stop)

/-- Reads the body of a function, whose name and parentheses have been read. -/
def functionBody (d : Dialect) (inner : Nesting) (compound : Reader Command) : Reader Command := do
  skipLines
  let starts := ["\x7b", "if", "for", "while", "until", "case", "[["]
  if d = .dash ∨ starts.contains (← rawWord) ∨ (← startsWith "(") then compound
  else failHere d inner none true

/-- Reads a simple command or the definition of a function. -/
def simpleCommand (d : Dialect) (inner : Nesting) (compound : Reader Command) : Reader Command := do
  let start ← get
  let p ← piecesOfSimple d inner (start.rest.length + 1) {}
  let line := if d = .bash then p.line else p.first
  match p.assignments, p.words, p.redirections with
  | [], [], [] => failHere d inner none true
  | [], [w], [] =>
    match literalWord? w, (← startsWith "(") with
    | some name, true =>
      advance
      skipBlanks
      if !(← accept ")") then failToken d (← unexpected d inner false).asWord (some ")")
      return .define name (← functionBody d inner compound)
    | _, _ => return .simple line [] [w] []
  | assignments, words, redirections =>
    return .simple line assignments.reverse words.reverse redirections.reverse

/-! ## Compound commands -/

/-- Reads the rest of a choice between two ways, from the condition on. -/
def choiceOfTwo (d : Dialect) (inner : Nesting) : Nat → Reader Command
  | 0 => failHere d inner none true
  | n + 1 => do
    let test ← inner.commands false
    expectReserved d inner "then"
    let yes ← inner.commands false
    skipLines
    if ← acceptReserved "elif" then return .cond test yes (← choiceOfTwo d inner n)
    else if ← acceptReserved "else" then
      let no ← inner.commands false
      expectReserved d inner "fi"
      return .cond test yes no
    else
      expectReserved d inner "fi"
      return .cond test yes .skip

/-- Reads `do`, commands and `done`. -/
def loopBody (d : Dialect) (inner : Nesting) : Reader Command := do
  expectReserved d inner "do"
  let body ← inner.commands false
  expectReserved d inner "done"
  return body

/-- Reads at most so many words up to the end of a list of words. -/
def wordList (d : Dialect) (inner : Nesting) : Nat → Reader (List Word)
  | 0 => return []
  | n + 1 => do
    skipBlanks
    match ← peek? with
    | none => return []
    | some c =>
      if c = ';' ∨ c = '\n' then
        advance
        return []
      else if isMeta c then failHere d inner none false
      else
        let w ← word inner
        return w :: (← wordList d inner n)

/-- Reads a loop over words, behind its first word. -/
def wordLoop (d : Dialect) (inner : Nesting) : Reader Command := do
  let line := (← get).line
  skipBlanks
  let name ← rawWord
  if d = .dash ∧ !isName name then failWith .badLoopVariable
  if name.isEmpty then failHere d inner none false
  advanceBy name.length
  skipLines
  if ← acceptReserved "in" then
    let words ← wordList d inner ((← get).rest.length + 1)
    return .forEach line name (some words) (← loopBody d inner)
  else
    let _ ← accept ";"
    return .forEach line name none (← loopBody d inner)

/-- Reads a loop that counts, behind its two opening parentheses. -/
def countLoop (d : Dialect) (inner : Nesting) : Reader Command := do
  let line := (← get).line
  match ← cut? expressionText? with
  | none => failUnclosed d line ')'
  | some text =>
    match text.splitOn ';' with
    | [start, test, step] =>
      let parts (t : List Char) : Reader (List Part) := within t line (inner.parts .wholly)
      let (start, test, step) := (← parts start, ← parts test, ← parts step)
      skipBlanks
      let _ ← accept ";"
      return .forCount start test step (← loopBody d inner)
    | _ => failAt line (.unexpected (.operator ";") none)

/-- Reads at most so many patterns that belong to one choice. -/
def choicePatterns (d : Dialect) (inner : Nesting) : Nat → Reader (List Word)
  | 0 => return []
  | n + 1 => do
    let w ← requiredWord d inner (some ")")
    skipBlanks
    if ← accept "|" then return w :: (← choicePatterns d inner n)
    else if ← accept ")" then return [w]
    else failHere d inner (some ")") false

/-- Reads at most so many choices. -/
def choices (d : Dialect) (inner : Nesting) : Nat → Reader (List Choice)
  | 0 => failHere d inner none true
  | n + 1 => do
    skipLines
    if ← acceptReserved "esac" then return []
    let _ ← accept "("
    if (← peek?).isNone then failHere d inner (some ")") true
    let patterns ← choicePatterns d inner ((← get).rest.length + 1)
    let body ← inner.commands true
    skipLines
    if ← acceptIf (d == .bash) ";;&" then return .mk patterns body true :: (← choices d inner n)
    else if ← acceptIf (d == .bash) ";&" then return .mk patterns body true :: (← choices d inner n)
    else if ← accept ";;" then return .mk patterns body false :: (← choices d inner n)
    else if ← acceptReserved "esac" then return [.mk patterns body false]
    else failHere d inner (some ";;") true

/-- Reads a choice, behind its first word. -/
def choice (d : Dialect) (inner : Nesting) : Reader Command := do
  let line := (← get).line
  let w ← requiredWord d inner none
  expectReserved d inner "in"
  return .select line w (← choices d inner ((← get).rest.length + 1))

/-! ## Conditions -/

/-- The operators of conditions with one word. -/
def unaryTests : List String :=
  ["-a", "-b", "-c", "-d", "-e", "-f", "-g", "-h", "-k", "-L", "-n", "-N", "-O", "-o", "-p", "-r",
    "-s", "-S", "-t", "-u", "-v", "-w", "-x", "-z", "-G"]

/-- The operators of conditions with two words. -/
def binaryTests : List String :=
  ["=", "==", "!=", "<", ">", "-eq", "-ne", "-lt", "-le", "-gt", "-ge", "-nt", "-ot", "-ef"]

/-- Reads a condition whose parts are joined, at most so deep. -/
def conditionOf (d : Dialect) (inner : Nesting) : Nat → Reader Condition
  | 0 => failHere d inner none false
  | n + 1 => do
    skipLines
    let left ← primary n
    joined n left
where
  /-- Reads what may stand behind a condition. -/
  joined (n : Nat) (left : Condition) : Reader Condition := do
    skipLines
    if ← accept "&&" then return .both left (← conditionOf d inner n)
    else if ← accept "||" then return .either left (← conditionOf d inner n)
    else return left
  /-- Reads a condition that is not joined. -/
  primary (n : Nat) : Reader Condition := do
    if ← acceptReserved "!" then
      match ← conditionOf d inner n with
      | .both a b => return .both (.not a) b
      | .either a b => return .either (.not a) b
      | c => return .not c
    else if ← accept "(" then
      let c ← conditionOf d inner n
      skipLines
      if ← accept ")" then return c else failHere d inner none false
    else
      let op ← rawWord
      if unaryTests.contains op then
        advanceBy op.length
        return .unary op (← requiredWord d inner none)
      let left ← requiredWord d inner none
      skipBlanks
      match binaryTests.find? (· == (← operatorText)) with
      | none => return .unary "-n" left
      | some op =>
        advanceBy op.length
        return .binary op left (← requiredWord d inner none)
  /-- The operator that comes next. -/
  operatorText : Reader String := do
    match ← peek? with
    | some '<' => return "<"
    | some '>' => return ">"
    | _ => rawWord

/-- Reads a condition, behind its opening brackets. -/
def conditionCommand (d : Dialect) (inner : Nesting) : Reader Command := do
  let line := (← get).line
  let c ← conditionOf d inner ((← get).rest.length + 1)
  skipLines
  if ← acceptReserved "]]" then return .test line c else failHere d inner none false

/-! ## Commands -/

/-- Puts redirections behind a compound command. -/
def withRedirections (d : Dialect) (inner : Nesting) (line : Nat) (body : Command) :
    Reader Command := do
  match ← redirections d inner ((← get).rest.length + 1) with
  | [] => return body
  | rs => return .redirected line body rs

/-- Reads a command that does not stand in a pipeline; at most so many function heads. -/
def oneCommand (d : Dialect) (inner : Nesting) : Nat → Reader Command
  | 0 => failHere d inner none false
  | n + 1 => do
    skipBlanks
    let line := (← get).line
    let finish (body : Command) : Reader Command := withRedirections d inner line body
    if d = .bash ∧ (← startsWith "((") then
      let start ← get
      advanceBy 2
      match ← cut? expressionText? with
      | some text => return ← finish (.compute line (← within text line (inner.parts .wholly)))
      | none =>
        if (balanced 0 [] (start.rest.drop 1)).isNone then failUnclosed d line ')'
        set start
    if ← accept "(" then
      let body ← inner.commands false
      skipLines
      if ← accept ")" then return ← finish (.subshell body)
      failHere d inner (some ")") true
    match ← rawWord with
    | "\x7b" =>
      advance
      let body ← inner.commands false
      expectReserved d inner "\x7d"
      finish (.group body)
    | "if" =>
      advanceBy 2
      finish (← choiceOfTwo d inner ((← get).rest.length + 1))
    | "while" =>
      advanceBy 5
      let test ← inner.commands false
      finish (.loop false test (← loopBody d inner))
    | "until" =>
      advanceBy 5
      let test ← inner.commands false
      finish (.loop true test (← loopBody d inner))
    | "for" =>
      advanceBy 3
      skipBlanks
      if ← acceptIf (d == .bash) "((" then finish (← countLoop d inner)
      else finish (← wordLoop d inner)
    | "case" =>
      advanceBy 4
      finish (← choice d inner)
    | "[[" =>
      if d = .dash then simpleCommand d inner (oneCommand d inner n)
      else
        advanceBy 2
        finish (← conditionCommand d inner)
    | "function" =>
      if d = .dash then simpleCommand d inner (oneCommand d inner n)
      else
        advanceBy 8
        skipBlanks
        let name ← rawWord
        if name.isEmpty then failHere d inner none false
        advanceBy name.length
        skipBlanks
        if ← accept "(" then
          skipBlanks
          if !(← accept ")") then failHere d inner none false
        return .define name (← functionBody d inner (oneCommand d inner n))
    | w =>
      if reservedWords.contains w then failHere d inner none false
      else simpleCommand d inner (oneCommand d inner n)

/-- Reads a command that does not stand in a pipeline. -/
def command (d : Dialect) (inner : Nesting) : Reader Command := do
  oneCommand d inner ((← get).rest.length + 1)

/-- Reads the commands of a pipeline, at most so many. -/
def pipelineCommands (d : Dialect) (inner : Nesting) : Nat → Reader (List Command)
  | 0 => return []
  | n + 1 => do
    let first ← command d inner
    skipBlanks
    if ← acceptIf (d == .bash) "|&" then
      skipLines
      let both := Command.redirected 0 first [.mk (some 2) .copyOutput [.plain "1"]]
      return both :: (← pipelineCommands d inner n)
    else if ← acceptIf (!(← startsWith "||")) "|" then
      skipLines
      return first :: (← pipelineCommands d inner n)
    else return [first]

/-- Reads a pipeline. -/
def pipeline (d : Dialect) (inner : Nesting) : Reader Command := do
  skipBlanks
  let negated ← acceptReserved "!"
  skipBlanks
  if negated ∧ d = .bash ∧ (← peek?).all (· == '\n') then return .pipeline true [.skip]
  match ← pipelineCommands d inner ((← get).rest.length + 1) with
  | [c] => return if negated then .pipeline true [c] else c
  | cs => return .pipeline negated cs

/-- Reads what may stand behind a pipeline, at most so many more pipelines. -/
def andOrRest (d : Dialect) (inner : Nesting) : Nat → Command → Reader Command
  | 0, left => return left
  | n + 1, left => do
    skipBlanks
    if ← accept "&&" then
      skipLines
      andOrRest d inner n (.andThen left (← pipeline d inner))
    else if ← accept "||" then
      skipLines
      andOrRest d inner n (.orElse left (← pipeline d inner))
    else return left

/-- Reads pipelines of which each depends on the one before. -/
def andOr (d : Dialect) (inner : Nesting) : Reader Command := do
  let first ← pipeline d inner
  andOrRest d inner ((← get).rest.length + 1) first

/-- Words that end a list of commands. -/
def closingWords : List String := ["then", "else", "elif", "fi", "do", "done", "esac", "\x7d"]

/-- Whether a list of commands ends here. -/
def atEnd : Reader Bool := do
  match ← peek? with
  | none => return true
  | some c =>
    if c = ')' ∨ (← startsWith ";;") ∨ (← startsWith ";&") then return true
    else return closingWords.contains (← rawWord)

/-- Puts commands one after another. -/
def inSequence : List Command → Command
  | [] => .skip
  | [c] => c
  | c :: rest => .sequence c (inSequence rest)

/-- Reads commands up to what ends their list, at most so many.  With `line` they end with
the line. -/
def commandsUpTo (d : Dialect) (inner : Nesting) (line : Bool) : Nat → Reader (List Command)
  | 0 => return []
  | n + 1 => do
    let first ← andOr d inner
    skipBlanks
    let background := !(← startsWith "&&") && (← startsWith "&")
    let c := if background then .background first else first
    if background ∨ (!(← startsWith ";;") ∧ !(← startsWith ";&") ∧ (← startsWith ";")) then
      advance
      rest c n
    else
      match ← peek? with
      | some '\n' => if line then return [c] else rest c n
      | none => return [c]
      | some _ => if line then failHere d inner none false else return [c]
where
  /-- Goes on behind a command that has been ended. -/
  rest (c : Command) (n : Nat) : Reader (List Command) := do
    if line then
      skipBlanks
      match ← peek? with
      | none | some '\n' => return [c]
      | some _ => return c :: (← commandsUpTo d inner line n)
    else
      skipLines
      if ← atEnd then return [c] else return c :: (← commandsUpTo d inner line n)

/-- Reads the commands that something opens, up to what closes it.  With `mayBeEmpty` there may be
none. -/
def commandList (d : Dialect) (inner : Nesting) (mayBeEmpty : Bool) : Reader Command := do
  skipLines
  let i ← get
  if i.rest.isEmpty ∨ (mayBeEmpty ∧ (← atEnd)) then return .skip
  return inSequence (← commandsUpTo d inner false (i.rest.length + 1))

/-- The readers of nested words and commands, so many levels deep. -/
def nesting (d : Dialect) : Nat → Nesting
  | 0 =>
    let fail {α : Type} : Reader α := failToken d .endOfLine none
    ⟨fun _ => fail, fun _ => fail⟩
  | n + 1 =>
    let inner := nesting d n
    ⟨partsOf d inner, commandList d inner⟩

/-- Commands are nested at most so deep. -/
def maxNesting : Nat := 1000

/-- The next command of a text, up to the end of its line, and what is behind it; nothing at the end
of the text. -/
def nextCommand? (d : Dialect) : Reader (Option Command) := do
  skipLines
  let i ← get
  if i.rest.isEmpty then return none
  return some (inSequence (← commandsUpTo d (nesting d maxNesting) true (i.rest.length + 1)))

end Overseer.Shell
