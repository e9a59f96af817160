import Overseer.Text.Blank

/-!
# Files of settings

A file of settings gives variables, one in a line: `NAME=value`, with an optional `export` before
it. A value may be quoted, in which case it may run over several lines; between weak quotes and
outside quotes a backslash escapes, and `$NAME` and `$` with braces stand for what the environment
or an earlier line gives.  A `#` at the start of a line, or behind a blank, opens a comment.

The file is read entry by entry.  The first entry that is malformed ends the reading; the entries
before it count.  A variable that the environment has already is not changed.

## Main definitions

* `Nesting`, `logicalLines` — the file cut into entries
* `parseValue` — the value that an entry gives
* `parseEntry` — the name and the value that an entry gives
* `loadSettings` — the environment behind a file of settings
-/

namespace Overseer.Agent

open Overseer.Text

/-- Variables and what they hold, each variable once. -/
abbrev Environment := List (String × String)

/-! ## Entries -/

/-- Where in an entry a character stands. -/
inductive Nesting where
  /-- in plain text -/
  | plain
  /-- behind a blank -/
  | blank
  /-- behind a backslash in plain text -/
  | escaped
  /-- between weak quotes -/
  | weak
  /-- behind a backslash between weak quotes -/
  | weakEscaped
  /-- between strong quotes -/
  | strong
  /-- behind a backslash between strong quotes -/
  | strongEscaped
  /-- in a comment -/
  | comment
  deriving DecidableEq, Repr, Inhabited

/-- Where the next character stands. -/
def Nesting.next (n : Nesting) (c : Char) : Nesting :=
  match n with
  | blank =>
    if c = '#' then comment
    else if c = '\\' then escaped
    else if c = '"' then weak
    else if c = '\'' then strong
    else plain
  | plain =>
    if isBlank c ∧ c ≠ '\n' ∧ c ≠ '\r' then blank
    else if c = '\\' then escaped
    else if c = '"' then weak
    else if c = '\'' then strong
    else plain
  | escaped => plain
  | weak => if c = '\\' then weakEscaped else if c = '"' then plain else weak
  | weakEscaped => weak
  | strong => if c = '\\' then strongEscaped else if c = '\'' then plain else strong
  | strongEscaped => strong
  | comment => comment

/-- Reads a line of the file behind what the entry holds so far, given backwards, up to
a comment. -/
def scanLine (n : Nesting) (entry : List Char) : List Char → Nesting × List Char
  | [] => (n, entry)
  | c :: rest =>
    match n.next c with
    | .comment => (.comment, entry)
    | n => scanLine n (c :: entry) rest

/-- An entry without its line end, from the entry given backwards. -/
def closeEntry : List Char → List Char
  | '\n' :: '\r' :: rest => rest.reverse
  | '\n' :: rest => rest.reverse
  | entry => entry.reverse

/-- The entries of a file, given as its lines with their ends.  The last one is `none` if the file
ends inside an entry. -/
def entriesFrom (n : Nesting) (entry : List Char) : List (List Char) → List (Option (List Char))
  | [] => if n = .plain then [] else [none]
  | line :: rest =>
    if ((entry.reverse ++ line).dropWhile isBlank).head? = some '#' then
      some [] :: entriesFrom .plain [] rest
    else
      match scanLine n entry line with
      | (.plain, entry) => some (closeEntry entry) :: entriesFrom .plain [] rest
      | (.comment, entry) => some entry.reverse :: entriesFrom .plain [] rest
      | (n, entry) => entriesFrom n entry rest

/-- The lines of a text, each with its end. -/
def linesWithEnds (text : List Char) : List (List Char) :=
  let pieces := text.splitOn '\n'
  let closed := pieces.dropLast.map (· ++ ['\n'])
  match pieces.getLast? with
  | some [] | none => closed
  | some rest => closed ++ [rest]

/-- The entries of a file. -/
def logicalLines (text : String) : List (Option (List Char)) :=
  let chars := match text.toList with
    | '\uFEFF' :: rest => rest
    | chars => chars
  entriesFrom .plain [] (linesWithEnds chars)

/-! ## Values -/

/-- What a reference in a value is looked up in: the environment, then the entries before. -/
structure References where
  /-- the environment -/
  environment : Environment
  /-- the values of earlier entries, the latest first -/
  earlier : Environment := []

/-- What a name stands for; nothing for an unknown one. -/
def References.value (refs : References) (name : String) : String :=
  ((refs.environment.lookup name).orElse fun _ => refs.earlier.lookup name).getD ""

/-- Where in a value a character stands. -/
inductive ValueState where
  /-- in plain text, `weak` between weak quotes -/
  | text (weak : Bool)
  /-- behind a backslash -/
  | escaped (weak : Bool)
  /-- between strong quotes -/
  | strong
  /-- in a name behind a dollar sign, the name given backwards -/
  | name (weak : Bool) (chars : List Char)
  /-- in a name between braces, given backwards -/
  | braced (weak : Bool) (chars : List Char)
  /-- behind the value -/
  | behind
  deriving DecidableEq, Repr, Inhabited

/-- Adds what a reference stands for. -/
def References.append (refs : References) (out : String) (name : List Char) : String :=
  out ++ refs.value (String.ofList name.reverse)

/-- The opening brace. -/
def openBrace : Char := '\x7b'

/-- The closing brace. -/
def closeBrace : Char := '\x7d'

/-- The value that is left to read behind a state, with what has been read so far in `out`.  A value
that ends inside quotes or braces is malformed. -/
def valueFrom (refs : References) (state : ValueState) (out : String) :
    List Char → Option String
  | [] =>
    match state with
    | .text false | .escaped false | .behind => some out
    | .name false chars => some (refs.append out chars)
    | _ => none
  | c :: rest =>
    match state with
    | .behind =>
      if c = ' ' ∨ c = '\t' then valueFrom refs .behind out rest
      else if c = '#' then some out
      else none
    | .escaped weak =>
      if "\\'\"$ ".toList.contains c then valueFrom refs (.text weak) (out.push c) rest
      else if c = 'n' then valueFrom refs (.text weak) (out.push '\n') rest
      else none
    | .strong =>
      if c = '\'' then valueFrom refs (.text false) out rest
      else valueFrom refs .strong (out.push c) rest
    | .name weak chars =>
      if c.isAlphanum then valueFrom refs (.name weak (c :: chars)) out rest
      else if c = openBrace ∧ chars.isEmpty then valueFrom refs (.braced weak []) out rest
      else
        let out := refs.append out chars
        if c = '$' then valueFrom refs (.name weak []) out rest
        else valueFrom refs (.text weak) (out.push c) rest
    | .braced weak chars =>
      if c = closeBrace then valueFrom refs (.text weak) (refs.append out chars) rest
      else valueFrom refs (.braced weak (c :: chars)) out rest
    | .text weak =>
      if c = '$' then valueFrom refs (.name weak []) out rest
      else if c = '\\' then valueFrom refs (.escaped weak) out rest
      else if c = '"' then valueFrom refs (.text (!weak)) out rest
      else if weak then valueFrom refs state (out.push c) rest
      else if c = '\'' then valueFrom refs .strong out rest
      else if c = ' ' ∨ c = '\t' then valueFrom refs .behind out rest
      else valueFrom refs state (out.push c) rest

/-- The value that a text stands for. -/
def parseValue (refs : References) (text : List Char) : Option String :=
  valueFrom refs (.text false) "" text

/-- Reads a name, and the blanks behind it. -/
def takeName (cs : List Char) : Option (String × List Char) :=
  match cs with
  | c :: _ =>
    if c.isAlpha ∨ c = '_' then
      let inName (c : Char) : Bool := c.isAlphanum || c == '_' || c == '.'
      some (String.ofList (cs.takeWhile inName), (cs.dropWhile inName).dropWhile isBlank)
    else none
  | [] => none

/-- Reads an equals sign, and the blanks behind it. -/
def takeEquals : List Char → Option (List Char)
  | '=' :: rest => some (rest.dropWhile isBlank)
  | _ => none

/-- Reads the name that an entry gives a value to.  The word `export` may stand before it, and may
be the name itself. -/
def takeTarget (cs : List Char) : Option (String × List Char) := do
  let (name, rest) ← takeName cs
  match takeEquals rest with
  | some rest => some (name, rest)
  | none =>
    if name = "export" then
      let (name, rest) ← takeName rest
      let rest ← takeEquals rest
      some (name, rest)
    else none

/-- Whether nothing, or nothing but a comment, is left. -/
def nothingButComment : List Char → Bool
  | [] => true
  | c :: _ => c == '#'

/-- The name and the value of an entry: `some none` for an entry that gives none, `none` for one
that is malformed. -/
def parseEntry (refs : References) (entry : List Char) : Option (Option (String × String)) :=
  let entry := (trimEndChars entry).dropWhile isBlank
  if nothingButComment entry then some none
  else do
    let (name, rest) ← takeTarget entry
    if nothingButComment rest then some (some (name, ""))
    else
      let value ← parseValue refs rest
      some (some (name, value))

/-! ## Whole files -/

/-- Adds a variable, unless it is there already. -/
def addMissing (env : Environment) (name value : String) : Environment :=
  if (env.lookup name).isSome then env else (name, value) :: env

/-- The environment behind some entries. -/
def loadEntries (refs : References) : List (Option (List Char)) → Environment
  | [] => refs.environment
  | none :: _ => refs.environment
  | some entry :: rest =>
    match parseEntry refs entry with
    | none => refs.environment
    | some none => loadEntries refs rest
    | some (some (name, value)) =>
      loadEntries ⟨addMissing refs.environment name value, (name, value) :: refs.earlier⟩ rest

/-- The environment behind a file of settings. -/
def loadSettings (env : Environment) (text : String) : Environment :=
  loadEntries ⟨env, []⟩ (logicalLines text)

end Overseer.Agent
