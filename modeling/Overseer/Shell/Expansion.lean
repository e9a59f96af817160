import Overseer.Shell.Braces
import Overseer.Shell.Fields
import Overseer.Shell.Running

/-!
# Expansion

Words become texts: parameters give their values, commands their output, expressions their
results.  What comes of that is split into fields, and fields that are patterns become the names of
files.

## Main definitions

* `parameter?` — the value of a parameter
* `outputOf` — the output of a command
* `expandParts` — the segments of a word
* `expandWord`, `expandText`, `expandPattern` — fields, one text, or a pattern
-/

namespace Overseer.Shell

open Overseer.Host Overseer.Os

/-! ## Parameters -/

/-- The letters of the options that are set. -/
def optionLetters (s : Session) : String :=
  let o := s.options
  let letters : List (Bool × Char) := match s.dialect with
    | .bash => [(o.allExport, 'a'), (o.errExit, 'e'), (o.noGlob, 'f'), (true, 'h'), (o.noExec, 'n'),
        (o.noUnset, 'u'), (o.trace, 'x'), (true, 'B'), (o.noClobber, 'C'), (s.fromArgument, 'c'),
        (s.fromInput, 's')]
    | .dash => [(o.errExit, 'e'), (o.noGlob, 'f'), (o.noExec, 'n'), (s.fromInput, 's'),
        (o.trace, 'x'), (o.noClobber, 'C'), (o.allExport, 'a'), (o.noUnset, 'u')]
  String.ofList ((letters.filter (·.1)).map (·.2))

/-- All arguments as one text. -/
def joinArguments (s : Session) : String :=
  let between := match s.value? "IFS" with
    | none => " "
    | some t => String.ofList (t.toList.take 1)
  between.intercalate s.arguments

/-- The value of a parameter, if it has one. -/
def parameter? (s : Session) (name : String) : Option String :=
  match name with
  | "#" => some (toString s.arguments.length)
  | "?" => some (toString s.status)
  | "$" => some (toString s.pid)
  | "!" => s.lastBackground.map toString
  | "-" => some (optionLetters s)
  | "@" | "*" => if s.arguments.isEmpty then none else some (joinArguments s)
  | "0" => some s.name
  | "FUNCNAME" =>
    if s.dialect = .bash then (if s.calls = 0 then none else some s.callName) else s.value? name
  | "LINENO" => if s.dialect = .bash then some (toString s.line) else s.value? name
  | name =>
    match name.toNat? with
    | some n => s.arguments[n - 1]?
    | none => s.value? name

/-- The value of a parameter, which is an error if it has to have one and has none. -/
def parameterValue (name : String) : ShellM String := do
  let s ← get
  match parameter? s name with
  | some v => return v
  | none =>
    if s.options.noUnset ∧ name ≠ "@" ∧ name ≠ "*" then
      match s.dialect with
      | .bash => failUnset (name ++ ": unbound variable")
      | .dash => failUnset (name ++ ": parameter not set")
    else return ""

/-- Whether a value counts as none. -/
def lacks (kind : TestKind) : Option String → Bool
  | none => true
  | some v => kind == .unsetOrEmpty && v.isEmpty

/-- The message about a parameter that has no value. -/
def lackMessage (d : Dialect) (kind : TestKind) (name word : String) : String :=
  let usual := match d, kind with
    | _, .unset => "parameter not set"
    | .bash, .unsetOrEmpty => "parameter null or not set"
    | .dash, .unsetOrEmpty => "parameter not set or null"
  name ++ ": " ++ if word.isEmpty then usual else word

/-- A part of a text; a start before the text is counted from its end. -/
def sliceOf (text : List Char) (start : Int) (length : Option Int) : List Char :=
  let size : Int := text.length
  let from_ := if start < 0 then size + start else start
  if from_ < 0 ∨ size < from_ then []
  else
    let rest := text.drop from_.toNat
    match length with
    | none => rest
    | some n => if n < 0 then rest.take (rest.length + n).toNat else rest.take n.toNat

/-- A text with its letters, or the first of them, in another case. -/
def changeCase (upper all : Bool) (text : List Char) : List Char :=
  let change (c : Char) : Char := if upper then c.toUpper else c.toLower
  if all then text.map change
  else match text with
    | [] => []
    | c :: rest => change c :: rest

/-! ## Commands -/

/-- What is left of an output: no zero bytes, and no ends of lines at its end. -/
def outputText (bytes : ByteArray) : String :=
  let chars := (octets bytes).toList.filter (· != '\x00')
  String.ofList (chars.reverse.dropWhile (· == '\n')).reverse

/-- The output of a command that a copy of the shell carries out. -/
def outputOf (inner : Inner) (start : Nat) (c : Command) : ShellM String := do
  let (reader, writer) : Nat × Nat ← ask .pipe
  let pid ← splitOff inner do
    let _ ← ask (.close reader)
    if writer ≠ 1 then
      let _ ← ask (.redirect writer 1)
      let _ ← ask (.close writer)
    modify fun s =>
      { s with lineShift := if s.dialect = .bash then (s.line : Int) - start else s.lineShift }
    inner.run .last c
  let _ ← ask (.close writer)
  let bytes ← perform (readAll reader)
  let bytes := bytes.toOption.getD .empty
  let _ ← ask (.close reader)
  let ending ← waitFor pid
  let status := (ending.map statusOf).getD 127
  modify fun s =>
    { s with outputStatus := status, status := if s.dialect = .bash then status else s.status }
  return outputText bytes

/-! ## Parts -/

/-- The segments of a value outside or inside weak quotes. -/
def valueSegments (weak : Bool) (text : String) : List Segment :=
  if weak then [.fixed text true] else [.value text]

/-- The segments of all arguments. -/
def argumentSegments (weak : Bool) (arguments : List String) : List Segment :=
  (arguments.map (valueSegments weak)).intersperse [.boundary] |>.flatten

/-- Text that stands where a value might stand is split like one. -/
def asValue (weak : Bool) : Segment → Segment
  | .fixed text false => if weak then .fixed text true else .value text
  | s => s

/-- Whether a part stands for all arguments, one by one. -/
def isAllArguments : Part → Bool
  | .parameter "@" .value => true
  | _ => false

/-- The segments of a parameter; `deeper` gives the segments of the words in it. -/
def expandParameter (deeper : Bool → List Part → ShellM (List Segment)) (weak : Bool)
    (name : String) (use : ParameterUse) : ShellM (List Segment) := do
  let s ← get
  let give (text : String) : ShellM (List Segment) := return valueSegments weak text
  let plainly : ShellM (List Segment) := do
    if name = "@" ∨ (name = "*" ∧ !weak) then return argumentSegments weak s.arguments
    give (← parameterValue name)
  let instead (word : List Part) : ShellM (List Segment) := do
    return (← deeper weak word).map (asValue weak)
  let pattern (word : List Part) : ShellM (List PatternItem) := do
    return patternOf (markSegments (← deeper false word))
  let value := parameter? s name
  match use with
  | .value => plainly
  | .length =>
    if name = "@" ∨ name = "*" then give (toString s.arguments.length)
    else give (toString (← parameterValue name).length)
  | .orElse kind word => if lacks kind value then instead word else plainly
  | .andThen kind word => if lacks kind value then return [] else instead word
  | .orAssign kind word =>
    if lacks kind value then
      let text := joinSegments (← deeper weak word)
      assign name text
      give text
    else plainly
  | .orFail kind word =>
    if lacks kind value then
      let text := joinSegments (← deeper true word)
      failUnset (lackMessage s.dialect kind name text)
    else plainly
  | .trimStart longest word =>
    let v ← parameterValue name
    give (String.ofList (trimStart longest (← pattern word) v.toList))
  | .trimEnd longest word =>
    let v ← parameterValue name
    give (String.ofList (trimEnd longest (← pattern word) v.toList))
  | .replace all anchor word replacement =>
    let v ← parameterValue name
    let p ← pattern word
    let r := joinSegments (← deeper false replacement)
    give (String.ofList (replaceMatches all anchor p r.toList v.toList))
  | .slice start length =>
    let start := (← arithmetic (joinSegments (← deeper true start))).toInt
    let length : Option Int ← match length with
      | none => pure none
      | some parts => do
        let n ← arithmetic (joinSegments (← deeper true parts))
        pure (some n.toInt)
    if name = "@" ∨ name = "*" then
      let all := s.name :: s.arguments
      let chosen := (all.drop start.toNat).take ((length.map (·.toNat)).getD all.length)
      return argumentSegments weak chosen
    let v ← parameterValue name
    give (String.ofList (sliceOf v.toList start length))
  | .changeCase upper all =>
    let v ← parameterValue name
    give (String.ofList (changeCase upper all v.toList))
  | .indirect => give (← parameterValue (← parameterValue name))
  | .senseless =>
    match s.dialect with
    | .bash => failFatally (name ++ ": bad substitution") 1
    | .dash => failFatally "Bad substitution" fatalStatus

/-- The segments of one part; `deeper` gives the segments of the parts in it. -/
def expandPart (inner : Inner) (deeper : Bool → List Part → ShellM (List Segment)) (weak : Bool) :
    Part → ShellM (List Segment)
  | .plain text => return [.fixed text weak]
  | .quoted text => return [.fixed text true]
  | .weak parts => do
    let segments ← deeper true parts
    if segments.isEmpty ∧ parts.any isAllArguments then return []
    return .fixed "" true :: segments
  | .parameter name use => expandParameter deeper weak name use
  | .output start c => return valueSegments weak (← outputOf inner start c)
  | .arithmetic parts => do
    let text := joinSegments (← deeper true parts)
    return valueSegments weak (toString (← arithmetic text).toInt)

/-- The segments of some parts. -/
def expandEach (one : Part → ShellM (List Segment)) : List Part → ShellM (List Segment)
  | [] => return []
  | p :: rest => do
    let segments ← one p
    return segments ++ (← expandEach one rest)

/-- The segments of some parts, nested at most so deep. -/
def expandParts (inner : Inner) : Nat → Bool → List Part → ShellM (List Segment)
  | 0, _, _ => return []
  | n + 1, weak, parts => expandEach (expandPart inner (expandParts inner n) weak) parts

/-- The home directory that the beginning of a word stands for. -/
def homeOf? (s : Session) (name : String) : Option String :=
  if name.isEmpty then s.value? "HOME"
  else if name = "root" then some "/root"
  else none

/-- A word whose beginning stands for a home directory has that directory there. -/
def withHome (s : Session) : Word → Word
  | .plain text :: rest =>
    match text.toList with
    | '~' :: chars =>
      let name := chars.takeWhile (· != '/')
      if name.length = chars.length ∧ !rest.isEmpty then .plain text :: rest
      else match homeOf? s (String.ofList name) with
        | some home => .quoted home :: .plain (String.ofList (chars.drop name.length)) :: rest
        | none => .plain text :: rest
    | _ => .plain text :: rest
  | w => w

/-- The segments of a word. -/
def segmentsOf (inner : Inner) (weak : Bool) (w : Word) : ShellM (List Segment) := do
  let s ← get
  expandParts inner (maxNesting + 1) weak (if weak then w else withHome s w)

/-! ## Files -/

/-- The names in a directory that are what a pattern stands for, in order. -/
def namesLike (base : String) (pattern : Marked) : ShellM (List String) := do
  match ← ask (.list (if base.isEmpty then "." else base)) with
  | .error _ => return []
  | .ok names =>
    let items := patternOf pattern
    let hidden := (pattern.head?.map (·.1)) == some '.'
    let names := if hidden then "." :: ".." :: names else names
    return (names.filter fun name =>
      (hidden || !name.startsWith ".") && PatternItem.matchesAll items name.toList).mergeSort
        (fun a b => decide (a ≤ b))

/-- Whether something stands at a path. -/
def stands (path : String) : ShellM Bool := do
  match ← ask (.status path false) with
  | .ok _ => return true
  | .error _ => return false

/-- The paths that names and patterns between slashes stand for, behind a base. -/
def pathsLike : List Marked → String → ShellM (List String)
  | [], base => return [base]
  | [last], base =>
    if mayBePattern last then do
      let names ← namesLike base last
      return names.map (base ++ ·)
    else do
      let path := base ++ textOf last
      return if ← stands path then [path] else []
  | part :: rest, base =>
    if mayBePattern part then do
      let names ← namesLike base part
      let each (name : String) : ShellM (List String) := pathsLike rest (base ++ name ++ "/")
      let rec go : List String → ShellM (List String)
        | [] => return []
        | name :: more => do
          let paths ← each name
          return paths ++ (← go more)
      go names
    else pathsLike rest (base ++ textOf part ++ "/")

/-- The parts of a field between slashes. -/
def splitAtSlashes (sofar : Marked) : Marked → List Marked
  | [] => [sofar.reverse]
  | (c, quoted) :: rest =>
    if c = '/' then sofar.reverse :: splitAtSlashes [] rest
    else splitAtSlashes ((c, quoted) :: sofar) rest

/-- The texts that a field stands for. -/
def fieldTexts (field : Marked) : ShellM (List String) := do
  if (← get).options.noGlob ∨ !mayBePattern field then return [textOf field]
  match ← pathsLike (splitAtSlashes [] field) "" with
  | [] => return [textOf field]
  | paths => return paths

/-- Puts the results of a step for each element one after another. -/
def forEachOf {α β : Type} (f : α → ShellM (List β)) : List α → ShellM (List β)
  | [] => return []
  | a :: rest => do
    let bs ← f a
    return bs ++ (← forEachOf f rest)

/-! ## Words -/

/-- The fields of a word. -/
def expandWord (inner : Inner) (w : Word) : ShellM (List String) := do
  let one (w : Word) : ShellM (List String) := do
    let segments ← segmentsOf inner false w
    forEachOf fieldTexts (splitSegments (← get).separators segments)
  match ← dialect with
  | .bash => forEachOf one (expandBraces w)
  | .dash => one w

/-- The fields of some words. -/
def expandWords (inner : Inner) (ws : List Word) : ShellM (List String) :=
  forEachOf (expandWord inner) ws

/-- A word as one text. -/
def expandText (inner : Inner) (w : Word) : ShellM String := do
  return joinSegments (← segmentsOf inner false w)

/-- A word as a pattern. -/
def expandPattern (inner : Inner) (w : Word) : ShellM (List PatternItem) := do
  return patternOf (markSegments (← segmentsOf inner false w))

end Overseer.Shell
