import Overseer.Shell.Reader

/-!
# Reading words

A word is read part by part.  What is special in it depends on the quotes around it, and every part
that opens something is read up to where it is closed.  Commands inside words are read by the reader
of commands, which is passed in: the two readers need each other.

## Main definitions

* `Mode` — what surrounds the parts that are read
* `Nesting` — the readers of what is nested in words and commands
* `partsOf`, `word` — words
-/

namespace Overseer.Shell

/-- What surrounds the parts that are read. -/
inductive Mode where
  /-- nothing: the word ends at a blank or an operator -/
  | bare
  /-- weak quotes -/
  | weak
  /-- braces, perhaps themselves in weak quotes -/
  | braced (inWeak : Bool)
  /-- the text is taken to its end, as if in weak quotes -/
  | wholly
  deriving DecidableEq, Repr

namespace Mode

/-- Blanks and quotes stand for themselves. -/
def isWeak : Mode → Bool
  | bare => false
  | weak | wholly => true
  | braced inWeak => inWeak

/-- The parts end before a character. -/
def ends (c : Char) : Mode → Bool
  | bare => isMeta c
  | weak => c == '"'
  | braced _ => c == '}'
  | wholly => false

/-- A backslash takes the meaning away from a character. -/
def escapes (c : Char) : Mode → Bool
  | bare | braced false => true
  | weak => "$`\"\\".toList.contains c
  | braced true => "$`\"\\\x7d".toList.contains c
  | wholly => "$`\\".toList.contains c

/-- Text that has no special meaning. -/
def literal (text : String) (m : Mode) : Part := if m.isWeak then .quoted text else .plain text

/-- A character that is not simply taken as it is. -/
def isSpecial (c : Char) (m : Mode) : Bool :=
  m.ends c || c == '\\' || c == '$' || c == '`' || (c == '"' && m != wholly) ||
    (c == '\'' && !m.isWeak)

end Mode

/-- The readers of what is nested in words and commands. -/
structure Nesting where
  /-- the parts of a word -/
  parts : Mode → Reader (List Part)
  /-- commands up to a word or an operator that ends them, perhaps none -/
  commands : Bool → Reader Command

/-! ## Unexpected things -/

/-- What comes next, as something unexpected. -/
def unexpected (d : Dialect) (inner : Nesting) (afterBreak : Bool) : Reader Unexpected := do
  match ← peek? with
  | none => return if afterBreak then .endOfText else .endOfLine
  | some '\n' => return .newline
  | some _ =>
    match ← operator? d with
    | some op => return .operator op
    | none =>
      let w := String.ofList (← passedBy (inner.parts .bare))
      return if reservedWords.contains w then .reserved w else .word w

/-- Fails because of what comes next. -/
def failHere {α : Type} (d : Dialect) (inner : Nesting) (expecting : Option String)
    (afterBreak : Bool) : Reader α := do
  skipBlanks
  failToken d (← unexpected d inner afterBreak) expecting

/-- Goes past a reserved word that has to come next. -/
def expectReserved (d : Dialect) (inner : Nesting) (word : String) : Reader Unit := do
  skipLines
  if ← acceptReserved word then return
  failHere d inner (some word) true

/-! ## Quotes -/

/-- The octets of a character. -/
def octetsOfChar (n : Nat) : List Char :=
  (Char.ofNat n).toString.toUTF8.data.toList.map fun b => Char.ofNat b.toNat

/-- What a backslash and the characters behind it stand for between dollar quotes, and what is
behind them. -/
def escaped : List Char → List Char × List Char
  | [] => (['\\'], [])
  | c :: rest =>
    match escapeLetters.lookup c with
    | some e => ([e], rest)
    | none =>
      let number (base limit : Nat) (make : Nat → List Char) : List Char × List Char :=
        let (n, behind) := takeDigits base 0 limit rest
        if behind.length = rest.length then (['\\', c], rest) else (make n, behind)
      if c = 'x' then number 16 2 fun n => [Char.ofNat n]
      else if c = 'u' then number 16 4 octetsOfChar
      else if c = 'U' then number 16 8 octetsOfChar
      else if isDigitOf 8 c then
        let (n, behind) := takeDigits 8 0 3 (c :: rest)
        ([Char.ofNat (n % 256)], behind)
      else (['\\', c], rest)

/-- The text between dollar quotes, and what is behind them; at most so many characters are looked
at. -/
def dollarQuoted (sofar : List Char) : Nat → List Char → Option (List Char × List Char)
  | 0, _ | _, [] => none
  | n + 1, '\\' :: rest =>
    let (made, rest) := escaped rest
    dollarQuoted (made.reverse ++ sofar) n rest
  | n + 1, c :: rest =>
    if c = '\'' then some (sofar.reverse, rest) else dollarQuoted (c :: sofar) n rest

/-- Reads what is between strong quotes, the first of which has been read. -/
def strongQuoted (d : Dialect) : Reader (List Part) := do
  let line := (← get).line
  let text ← takeWhile (· != '\'')
  if ← accept "'" then return [.quoted text] else failUnclosed d line '\''

/-- Reads what is between weak quotes, the first of which has been read. -/
def weakQuoted (d : Dialect) (inner : Nesting) : Reader (List Part) := do
  let line := (← get).line
  let parts ← inner.parts .weak
  if ← accept "\"" then return [.weak parts] else failUnclosed d line '"'

/-- Reads a command between backquotes, the first of which has been read. -/
def backquotedCommand (d : Dialect) (inner : Nesting) : Reader (List Part) := do
  let line := (← get).line
  match ← cut? (backquoted []) with
  | none => failUnclosed d line '`'
  | some text => return [.output 1 (← within text 1 (inner.commands true))]

/-! ## Parameters -/

/-- A parameter that is no variable. -/
def isSpecialParameter (c : Char) : Bool := "@*#?-$!".toList.contains c

/-- The name of the parameter that comes next, if one does.  `long` allows numbers of several
digits. -/
def parameterName? (long : Bool) : Reader (Option String) := do
  match ← peek? with
  | none => return none
  | some c =>
    if isNameStart c then return some (← takeWhile isNameChar)
    else if c.isDigit then
      if long then return some (← takeWhile Char.isDigit)
      else
        advance
        return some c.toString
    else if isSpecialParameter c then
      advance
      return some c.toString
    else return none

/-- Reads the word of a parameter up to the brace behind it. -/
def parameterWord (inner : Nesting) (m : Mode) : Reader (List Part) :=
  inner.parts (.braced m.isWeak)

/-- Reads what is made of the value of a parameter, up to the closing brace; nothing if it makes no
sense. -/
def parameterUse? (d : Dialect) (inner : Nesting) (m : Mode) : Reader (Option ParameterUse) := do
  let word := parameterWord inner m
  let pattern := inner.parts (.braced false)
  let kind : TestKind := if ← startsWith ":" then .unsetOrEmpty else .unset
  let next := (← get).rest
  let (colon, test) := match next with
    | ':' :: rest => (true, rest.head?)
    | rest => (false, rest.head?)
  let tested (make : TestKind → List Part → ParameterUse) : Reader (Option ParameterUse) := do
    advanceBy (if colon then 2 else 1)
    return some (make kind (← word))
  match test with
  | some '-' => tested .orElse
  | some '=' => tested .orAssign
  | some '?' => tested .orFail
  | some '+' => tested .andThen
  | _ =>
    if ← startsWith "\x7d" then return some .value
    else if ← accept "##" then return some (.trimStart true (← pattern))
    else if ← accept "#" then return some (.trimStart false (← pattern))
    else if ← accept "%%" then return some (.trimEnd true (← pattern))
    else if ← accept "%" then return some (.trimEnd false (← pattern))
    else if d = .dash then return none
    else if ← accept ":" then
      let i ← get
      let parts ← within (i.rest.takeWhile fun c => c != ':' && c != '\x7d') i.line
        (inner.parts .wholly)
      let _ ← takeWhile fun c => c != ':' && c != '\x7d'
      if ← accept ":" then
        return some (.slice parts (some (← inner.parts (.braced true))))
      else return some (.slice parts none)
    else if ← accept "^^" then return some (.changeCase true true)
    else if ← accept "^" then return some (.changeCase true false)
    else if ← accept ",," then return some (.changeCase false true)
    else if ← accept "," then return some (.changeCase false false)
    else if ← accept "/" then
      let all ← accept "/"
      let anchor ← if all then pure none
        else if ← accept "#" then pure (some true)
        else if ← accept "%" then pure (some false)
        else pure none
      let both ← pattern
      return some (splitReplacement all anchor both)
    else return none
where
  /-- The pattern and the replacement: they meet at the first slash outside quotes. -/
  splitReplacement (all : Bool) (anchor : Option Bool) (parts : List Part) : ParameterUse :=
    let rec split (sofar : List Part) : List Part → List Part × List Part
      | [] => (sofar.reverse, [])
      | .plain text :: rest =>
        if text.toList.contains '/' then
          let before := text.toList.takeWhile (· != '/')
          let behind := text.toList.drop (before.length + 1)
          ((Part.plain (String.ofList before) :: sofar).reverse,
            Part.plain (String.ofList behind) :: rest)
        else split (.plain text :: sofar) rest
      | p :: rest => split (p :: sofar) rest
    let (pattern, replacement) := split [] parts
    .replace all anchor pattern replacement

/-- Reads a parameter in braces, the first of which has been read. -/
def bracedParameter (d : Dialect) (inner : Nesting) (m : Mode) : Reader Part := do
  let start ← get
  let finish (name : String) (use : ParameterUse) : Reader (Option Part) := do
    if ← accept "\x7d" then return some (.parameter name use) else return none
  let indirect := d == .bash && match start.rest with
    | '!' :: c :: _ => isNameStart c || c.isDigit
    | _ => false
  let counted := match start.rest with
    | '#' :: c :: _ => c != '\x7d' && (isNameChar c || isSpecialParameter c)
    | _ => false
  let found ← if indirect then do
      advance
      match ← parameterName? true with
      | some name => finish name .indirect
      | none => pure none
    else if counted then do
      advance
      match ← parameterName? true with
      | some name => finish name .length
      | none => pure none
    else do
      match ← parameterName? true with
      | none => pure none
      | some name =>
        match ← parameterUse? d inner m with
        | some use => finish name use
        | none => pure none
  match found with
  | some part => return part
  | none =>
    if !(← get).rest.contains '\x7d' then
      if d = .dash then modify fun i => { i with rest := i.rest.drop 1 }
      failUnclosed d start.line (if d = .dash ∧ m = .weak then '"' else '\x7d')
    let _ ← takeWhile (· != '\x7d')
    advance
    let read := start.rest.take (start.rest.length - (← get).rest.length)
    return .parameter ("$\x7b" ++ String.ofList read) .senseless

/-! ## Parts -/

/-- Reads a command between parentheses, the first of which has been read. -/
def parenthesised (d : Dialect) (inner : Nesting) : Reader Part := do
  skipLines
  let start := (← get).line
  let body ← inner.commands true
  skipLines
  if ← accept ")" then return .output start body
  if (← get).rest.isEmpty ∧ d = .bash then failAt (← endLine d) .unclosedOutput
  failHere d inner (some ")") true

/-- Reads what begins with a dollar sign, which has been read. -/
def dollar (d : Dialect) (inner : Nesting) (m : Mode) : Reader (List Part) := do
  let line := (← get).line
  if ← accept "((" then
    match ← cut? expressionText? with
    | some text => return [.arithmetic (← within text line (inner.parts .wholly))]
    | none =>
      if d = .dash ∨ (balanced 0 [] (← get).rest).isNone then failUnclosed d line ')'
      modify fun i => { i with rest := '(' :: i.rest }
      return [← parenthesised d inner]
  else if ← accept "(" then return [← parenthesised d inner]
  else if ← accept "\x7b" then return [← bracedParameter d inner m]
  else if ← acceptIf (d == .bash && !m.isWeak) "'" then
    match ← cut? fun rest => dollarQuoted [] (rest.length + 1) rest with
    | none => failUnclosed d line '\''
    | some text => return [.quoted (String.ofList (text.takeWhile (· != '\x00')))]
  else if ← acceptIf (d == .bash && !m.isWeak) "\"" then weakQuoted d inner
  else match ← parameterName? false with
    | some name => return [.parameter name .value]
    | none => return [m.literal "$"]

/-- Reads one part, or a few that belong together. -/
def piece (d : Dialect) (inner : Nesting) (m : Mode) (c : Char) : Reader (List Part) := do
  if c = '\\' then
    advance
    match ← peek? with
    | none =>
      if d = .bash then modify fun i => { i with line := i.line + 2 }
      return [m.literal "\\"]
    | some '\n' =>
      advance
      return []
    | some e =>
      if m.escapes e then
        advance
        return [.quoted e.toString]
      else return [.quoted "\\"]
  else if c = '\'' ∧ !m.isWeak then
    advance
    strongQuoted d
  else if c = '"' ∧ m ≠ .wholly then
    advance
    weakQuoted d inner
  else if c = '$' then
    advance
    dollar d inner m
  else if c = '`' then
    advance
    backquotedCommand d inner
  else return [m.literal (← takeWhile fun c => !m.isSpecial c)]

/-- Reads at most so many pieces. -/
def piecesOf (d : Dialect) (inner : Nesting) (m : Mode) : Nat → List Part → Reader (List Part)
  | 0, sofar => return sofar.reverse
  | n + 1, sofar => do
    match ← peek? with
    | none => return sofar.reverse
    | some c =>
      if m.ends c then return sofar.reverse
      else piecesOf d inner m n ((← piece d inner m c).reverse ++ sofar)

/-- Reads the parts of a word. -/
def partsOf (d : Dialect) (inner : Nesting) (m : Mode) : Reader (List Part) := do
  piecesOf d inner m ((← get).rest.length + 1) []

end Overseer.Shell
