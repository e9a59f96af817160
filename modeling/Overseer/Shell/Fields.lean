import Overseer.Shell.Pattern

/-!
# Fields

What is left of a word when everything in it has been replaced is a list of segments.  Segments are
joined to one text, or split into fields.

## Main definitions

* `Segment` — a piece of a word in which everything has been replaced
* `joinSegments`, `markSegments` — one text
* `splitSegments` — fields
-/

namespace Overseer.Shell

/-- A piece of a word in which everything has been replaced. -/
inductive Segment where
  /-- a text that is not split, and whether it was quoted -/
  | fixed (text : String) (quoted : Bool)
  /-- a value that is split -/
  | value (text : String)
  /-- here one field ends and the next begins -/
  | boundary
  deriving Repr, Inhabited

/-- All segments as one text. -/
def joinSegments (segments : List Segment) : String :=
  String.join (segments.map fun
    | .fixed text _ => text
    | .value text => text
    | .boundary => " ")

/-- All segments as one text, with marks on what was quoted. -/
def markSegments (segments : List Segment) : Marked :=
  segments.flatMap fun
    | .fixed text quoted => marked quoted text
    | .value text => marked false text
    | .boundary => marked true " "

/-- The state of splitting. -/
structure Splitting where
  /-- the fields that are complete, the last one first -/
  fields : List Marked := []
  /-- the field that has been begun, backwards -/
  current : Option Marked := none
  /-- the last field was ended by a blank -/
  afterBlank : Bool := false

namespace Splitting

/-- Adds characters to the field that has been begun. -/
def add (s : Splitting) (text : Marked) : Splitting :=
  { s with current := some (text.reverse ++ s.current.getD []), afterBlank := false }

/-- Ends the field that has been begun. -/
def close (s : Splitting) : Splitting :=
  match s.current with
  | some f => { s with fields := f.reverse :: s.fields, current := none }
  | none => s

/-- Takes a character of a value. -/
def feed (separators : String) (s : Splitting) (c : Char) : Splitting :=
  if !separators.toList.contains c then s.add [(c, false)]
  else if " \t\n".toList.contains c then
    match s.current with
    | some _ => { s.close with afterBlank := true }
    | none => s
  else
    match s.current with
    | some _ => { s.close with afterBlank := false }
    | none =>
      if s.afterBlank then { s with afterBlank := false }
      else { s with fields := [] :: s.fields }

/-- Takes a segment. -/
def feedSegment (separators : String) (s : Splitting) : Segment → Splitting
  | .fixed text quoted => s.add (marked quoted text)
  | .value text => text.toList.foldl (feed separators) s
  | .boundary => { s.close with afterBlank := false }

end Splitting

/-- The fields of some segments. -/
def splitSegments (separators : String) (segments : List Segment) : List Marked :=
  (segments.foldl (Splitting.feedSegment separators) {}).close.fields.reverse

/-- The text of a field. -/
def textOf (field : Marked) : String := String.ofList (field.map (·.1))

/-- A field may be a pattern. -/
def mayBePattern (field : Marked) : Bool := field.any fun (c, quoted) => !quoted && isPatternChar c

end Overseer.Shell
