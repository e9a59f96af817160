import Overseer.Shell.Syntax

/-!
# Reading shell text

The characters of a command are read from left to right.  What has not been read yet is kept
together with the number of its first line.

## Main definitions

* `Input` — what is left to read
* `Unexpected`, `SyntaxError` — why a text is no command
* `Reader` — steps of reading
* `skipBlanks`, `operator?`, `isMeta` — the ground on which words and commands are read
-/

namespace Overseer.Shell

/-- A text document that the end of the text has ended. -/
structure UnendedDocument where
  /-- its end mark, which is missing -/
  mark : String
  /-- the line in which it was asked for -/
  start : Nat
  /-- its last line -/
  stop : Nat
  deriving Inhabited

/-- What is left to read. -/
structure Input where
  /-- the characters -/
  rest : List Char
  /-- the number of their first line -/
  line : Nat := 1
  /-- so many lines have been cut out behind the first one -/
  cut : Nat := 0
  /-- documents without an end -/
  unended : List UnendedDocument := []
  /-- the last line of the text has an end -/
  endsBreak : Bool := rest.getLast? == some '\n'
  deriving Inhabited

/-- What is left behind some characters that contain so many line ends. -/
def Input.behind (i : Input) (rest : List Char) (lines : Nat) : Input :=
  if lines = 0 then { i with rest } else { i with rest, line := i.line + lines + i.cut, cut := 0 }

/-- What stands where it may not stand. -/
inductive Unexpected where
  /-- an operator -/
  | operator (text : String)
  /-- a reserved word -/
  | reserved (text : String)
  /-- another word -/
  | word (text : String)
  /-- the end of a line -/
  | newline
  /-- the end of the text, at a place where a line might have ended -/
  | endOfText
  /-- the end of the text elsewhere -/
  | endOfLine
  deriving DecidableEq, Repr, Inhabited

/-- A word as such, even where it would be reserved elsewhere. -/
def Unexpected.asWord : Unexpected → Unexpected
  | reserved text => word text
  | what => what

/-- Why a text is no command. -/
inductive SyntaxError where
  /-- something stands where it may not stand, perhaps in place of something else -/
  | unexpected (what : Unexpected) (expecting : Option String)
  /-- something that was opened is not closed -/
  | unclosed (closer : Char)
  /-- a command whose output is taken is not closed -/
  | unclosedOutput
  /-- the variable of a loop is no name -/
  | badLoopVariable
  deriving DecidableEq, Repr, Inhabited

/-- A syntax error and the line in which it was found. -/
structure LocatedError where
  /-- the error -/
  error : SyntaxError
  /-- the line -/
  line : Nat
  deriving Inhabited

/-- A step of reading. -/
abbrev Reader (α : Type) := StateT Input (Except LocatedError) α

/-- Fails at the line reached. -/
def failWith {α : Type} (error : SyntaxError) : Reader α := do
  throw ⟨error, (← get).line⟩

/-- Fails at a line. -/
def failAt {α : Type} (line : Nat) (error : SyntaxError) : Reader α := throw ⟨error, line⟩

/-- The number of the line in which the text ends.  To the full shell a missing end of the last line
is there all the same. -/
def endLine (d : Dialect) : Reader Nat := do
  let i ← get
  let stop := (i.behind [] (i.rest.count '\n')).line
  return if d = .bash ∧ !i.endsBreak then stop + 1 else stop

/-- Fails because something that was opened in a line is not closed.  The plain shell is at the end
of the text then. -/
def failUnclosed {α : Type} (d : Dialect) (start : Nat) (closer : Char) : Reader α := do
  let stop ← endLine d
  failAt (if d = .dash then stop else start) (.unclosed closer)

/-- Fails because of what has just been found.  The plain shell has gone past an end of a line. -/
def failToken {α : Type} (d : Dialect) (what : Unexpected) (expecting : Option String) :
    Reader α := do
  let line := (← get).line
  let line ← match d, what with
    | .dash, .newline => pure (line + 1)
    | .bash, .endOfText => endLine d
    | _, _ => pure line
  failAt line (.unexpected what expecting)

/-- The next character. -/
def peek? : Reader (Option Char) := do
  return (← get).rest.head?

/-- Goes past the next character. -/
def advance : Reader Unit := modify fun i =>
  match i.rest with
  | [] => i
  | c :: rest => i.behind rest (if c = '\n' then 1 else 0)

/-- Goes past so many characters. -/
def advanceBy : Nat → Reader Unit
  | 0 => pure ()
  | n + 1 => do advance; advanceBy n

/-- Whether a text comes next. -/
def startsWith (text : String) : Reader Bool := do
  return text.toList.isPrefixOf (← get).rest

/-- Goes past a text if it comes next. -/
def accept (text : String) : Reader Bool := do
  if ← startsWith text then
    advanceBy text.length
    return true
  else return false

/-- Goes past a text if it comes next and may stand here. -/
def acceptIf (allowed : Bool) (text : String) : Reader Bool :=
  if allowed then accept text else return false

/-- Characters as long as they satisfy a condition. -/
def takeWhile (condition : Char → Bool) : Reader String := do
  let i ← get
  let taken := i.rest.takeWhile condition
  let lines := (taken.filter (· == '\n')).length
  set (i.behind (i.rest.drop taken.length) lines)
  return String.ofList taken

/-- The characters that a step goes past. -/
def passedBy {α : Type} (r : Reader α) : Reader (List Char) := do
  let before ← get
  let _ ← r
  return before.rest.take (before.rest.length - (← get).rest.length)

/-- Takes what a function cuts off the text, if it can. -/
def cut? (f : List Char → Option (List Char × List Char)) : Reader (Option (List Char)) := do
  let i ← get
  match f i.rest with
  | none => return none
  | some (inner, rest) =>
    let read := i.rest.take (i.rest.length - rest.length)
    set (i.behind rest (read.count '\n'))
    return some inner

/-- Reads another text in between, whose first line has the number `first`. -/
def within {α : Type} (text : List Char) (first : Nat) (r : Reader α) : Reader α := do
  let i ← get
  set ({ rest := text, line := first } : Input)
  let a ← r
  set i
  return a

/-- Characters that end a word. -/
def isMeta (c : Char) : Bool := " \t\n;&|<>()".toList.contains c

/-- A character of a name. -/
def isNameChar (c : Char) : Bool := c.isAlphanum || c == '_'

/-- A character that a name may begin with. -/
def isNameStart (c : Char) : Bool := c.isAlpha || c == '_'

/-- Whether a text is a name. -/
def isName (s : String) : Bool :=
  match s.toList with
  | c :: rest => isNameStart c && rest.all isNameChar
  | [] => false

/-- How many characters blanks, joined lines and a comment at the start of a text take. -/
def blankLength : List Char → Nat
  | ' ' :: rest | '\t' :: rest => blankLength rest + 1
  | '\\' :: '\n' :: rest => blankLength rest + 2
  | '#' :: rest => (rest.takeWhile (· != '\n')).length + 1
  | _ => 0

/-- Goes past blanks, joined lines and a comment. -/
def skipBlanks : Reader Unit := do
  advanceBy (blankLength (← get).rest)

/-- Goes past everything up to the next command, at most so many lines. -/
def skipLinesFor : Nat → Reader Unit
  | 0 => pure ()
  | n + 1 => do
    skipBlanks
    if ← accept "\n" then skipLinesFor n

/-- Goes past everything up to the next command. -/
def skipLines : Reader Unit := do
  skipLinesFor ((← get).rest.length + 1)

/-- The operators of commands, the longer ones first. -/
def operators (d : Dialect) : List String :=
  let shared := ["&&", "||", ";;", "<<-", "<<", "<&", "<>", ">>", ">&", ">|", ";", "&", "|", "<",
    ">", "(", ")"]
  match d with
  | .bash => [";;&", ";&", "&>>", "&>", "|&", "<<<"] ++ shared
  | .dash => shared

/-- The operator that comes next. -/
def operator? (d : Dialect) : Reader (Option String) := do
  let i ← get
  return (operators d).find? fun op => op.toList.isPrefixOf i.rest

/-- The reserved words. -/
def reservedWords : List String :=
  ["if", "then", "else", "elif", "fi", "do", "done", "case", "esac", "while", "until", "for",
    "\x7b", "\x7d", "!", "in"]

/-- The next word as it is written. -/
def rawWord : Reader String := do
  let i ← get
  return String.ofList (i.rest.takeWhile fun c => !isMeta c)

/-- Whether a reserved word comes next. -/
def atReserved (word : String) : Reader Bool := do
  return (← rawWord) = word

/-- Goes past a reserved word if it comes next. -/
def acceptReserved (word : String) : Reader Bool := do
  if ← atReserved word then
    advanceBy word.length
    return true
  else return false

/-- The text up to the closing parenthesis that belongs to one before it, and what is
behind.  `depth` counts the parentheses that are open. -/
def balanced (depth : Nat) (sofar : List Char) : List Char → Option (List Char × List Char)
  | [] => none
  | '(' :: rest => balanced (depth + 1) ('(' :: sofar) rest
  | ')' :: rest =>
    match depth with
    | 0 => some (sofar.reverse, rest)
    | depth + 1 => balanced depth (')' :: sofar) rest
  | c :: rest => balanced depth (c :: sofar) rest

/-- The text of an arithmetic expression, whose two opening parentheses have been read, and what is
behind its two closing ones. -/
def expressionText? (text : List Char) : Option (List Char × List Char) :=
  match balanced 0 [] text with
  | some (inner, ')' :: rest) => some (inner, rest)
  | _ => none

/-- The text between backquotes, and what is behind them. -/
def backquoted (sofar : List Char) : List Char → Option (List Char × List Char)
  | [] => none
  | '\\' :: c :: rest =>
    if c = '`' ∨ c = '\\' ∨ c = '$' then backquoted (c :: sofar) rest
    else backquoted (c :: '\\' :: sofar) rest
  | c :: rest =>
    if c = '`' then some (sofar.reverse, rest) else backquoted (c :: sofar) rest

/-- The lines of a text document up to the line that is its end mark, and what is behind it, if it
is there.  `tabs` takes tabs away from the beginnings of lines. -/
def document (mark : List Char) (tabs : Bool) :
    (lines : List (List Char)) → List (List Char) × Option (List (List Char))
  | [] => ([], none)
  | line :: rest =>
    let line := if tabs then line.dropWhile (· == '\t') else line
    if line = mark then ([], some rest)
    else
      let (body, behind) := document mark tabs rest
      (line :: body, behind)

/-- Cuts a text document out of what is behind the line being read. -/
def cutDocument (d : Dialect) (mark : String) (tabs : Bool) : Reader String := do
  let i ← get
  let line := i.rest.takeWhile (· != '\n')
  let lines := match i.rest.drop line.length with
    | [] => []
    | _ :: behind => behind.splitOn '\n'
  let closed (lines : List (List Char)) : List Char := lines.flatMap (· ++ ['\n'])
  match document mark.toList tabs lines with
  | (body, some rest) =>
    let behind := List.intercalate ['\n'] rest
    set { i with rest := line ++ '\n' :: behind, cut := i.cut + body.length + 1 }
    return String.ofList (closed body)
  | (body, none) =>
    let count := if body.getLast? = some [] then body.length - 1 else body.length
    let document := { mark, start := i.line, stop := i.line + i.cut + count }
    set { i with rest := line, unended := i.unended ++ [document] }
    return String.ofList (if count < body.length ∨ d = .bash then closed (body.take count)
      else List.intercalate ['\n'] body)

/-- What a letter behind a backslash stands for between dollar quotes. -/
def escapeLetters : List (Char × Char) :=
  [('a', '\x07'), ('b', '\x08'), ('e', '\x1b'), ('E', '\x1b'), ('f', '\x0c'), ('n', '\n'),
    ('r', '\r'), ('t', '\t'), ('v', '\x0b'), ('\\', '\\'), ('\'', '\''), ('"', '"'), ('?', '?')]

/-- The value of a digit. -/
def digitValue (c : Char) : Nat :=
  if c.isDigit then c.toNat - '0'.toNat
  else if c.isLower then c.toNat - 'a'.toNat + 10
  else c.toNat - 'A'.toNat + 10

/-- Whether a character is a digit to a base up to 16. -/
def isDigitOf (base : Nat) (c : Char) : Bool :=
  (c.isDigit || ('a' ≤ c && c ≤ 'f') || ('A' ≤ c && c ≤ 'F')) && digitValue c < base

/-- At most so many digits at the start of a text: their value, and what is behind them. -/
def takeDigits (base : Nat) (value : Nat) : (limit : Nat) → List Char → Nat × List Char
  | limit + 1, c :: rest =>
    if isDigitOf base c then takeDigits base (value * base + digitValue c) limit rest
    else (value, c :: rest)
  | _, rest => (value, rest)

end Overseer.Shell
