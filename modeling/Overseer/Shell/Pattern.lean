/-!
# Patterns

A pattern is a text in which some characters stand for others.  Each character comes with a mark
that says whether quotes have taken its meaning away.

## Main definitions

* `Marked` — characters with their marks
* `PatternItem`, `patternOf` — patterns
* `PatternItem.matchesAll` — whether a text is what a pattern stands for
* `trimStart`, `trimEnd`, `replaceMatches` — texts without what a pattern stands for
-/

namespace Overseer.Shell

/-- Characters, each with a mark if quotes have taken its meaning away. -/
abbrev Marked := List (Char × Bool)

/-- Marks all characters of a text in one way. -/
def marked (quoted : Bool) (text : String) : Marked := text.toList.map (·, quoted)

/-- What the characters of a set in brackets may be. -/
inductive SetItem where
  | one (c : Char)
  | range (low high : Char)
  | named (name : String)
  deriving Repr

/-- A piece of a pattern. -/
inductive PatternItem where
  /-- a character -/
  | one (c : Char)
  /-- any character -/
  | any
  /-- any text -/
  | many
  /-- a character that is in a set, or not -/
  | set (negated : Bool) (items : List SetItem)
  deriving Repr

/-- Whether a character is of a named class. -/
def inClass (c : Char) : String → Bool
  | "alpha" => c.isAlpha
  | "digit" => c.isDigit
  | "alnum" => c.isAlphanum
  | "upper" => c.isUpper
  | "lower" => c.isLower
  | "space" => " \t\n\x0b\x0c\r".toList.contains c
  | "blank" => c == ' ' || c == '\t'
  | "punct" => '!' ≤ c && c ≤ '~' && !c.isAlphanum
  | "print" => ' ' ≤ c && c ≤ '~'
  | "graph" => '!' ≤ c && c ≤ '~'
  | "cntrl" => c < ' ' || c == '\x7f'
  | "xdigit" => c.isDigit || ('a' ≤ c && c ≤ 'f') || ('A' ≤ c && c ≤ 'F')
  | _ => false

/-- Whether a character is one that a part of a set stands for. -/
def SetItem.has (c : Char) : SetItem → Bool
  | one d => c == d
  | range low high => low ≤ c && c ≤ high
  | named name => inClass c name

/-- The class name at the start of a text, and what is behind it. -/
def className? (rest : Marked) : Option (String × Marked) :=
  let name := rest.takeWhile fun (c, quoted) => c.isLower && !quoted
  match rest.drop name.length with
  | (':', false) :: (']', false) :: behind => some (String.ofList (name.map (·.1)), behind)
  | _ => none

/-- The parts of a set up to its closing bracket, and what is behind it; at most so many. -/
def setItems : Nat → (first : Bool) → Marked → Option (List SetItem × Marked)
  | 0, _, _ | _, _, [] => none
  | n + 1, first, (c, quoted) :: rest => do
    if c == ']' && !quoted && !first then return ([], rest)
    let (item, rest) := match c, quoted, rest with
      | '[', false, (':', false) :: more =>
        match className? more with
        | some (name, behind) => (SetItem.named name, behind)
        | none => (.one c, rest)
      | _, _, ('-', false) :: (d, q) :: behind =>
        if d == ']' && !q then (.one c, rest) else (.range c d, behind)
      | _, _, _ => (.one c, rest)
    let (items, rest) ← setItems n false rest
    return (item :: items, rest)

/-- A set at the start of a text, behind its opening bracket. -/
def set? (rest : Marked) : Option (PatternItem × Marked) :=
  let negated := match rest with
    | (c, false) :: _ => c == '!' || c == '^'
    | _ => false
  (setItems (rest.length + 1) true (if negated then rest.drop 1 else rest)).map
    fun (items, behind) => (.set negated items, behind)

/-- The pattern that marked characters are; at most so many pieces. -/
def patternItems : Nat → Marked → List PatternItem
  | 0, _ | _, [] => []
  | n + 1, (c, quoted) :: rest =>
    if quoted then .one c :: patternItems n rest
    else match c with
      | '*' => .many :: patternItems n rest
      | '?' => .any :: patternItems n rest
      | '[' =>
        match set? rest with
        | some (item, behind) => item :: patternItems n behind
        | none => .one c :: patternItems n rest
      | '\\' =>
        match rest with
        | (d, _) :: rest => .one d :: patternItems n rest
        | [] => [.one c]
      | _ => .one c :: patternItems n rest

/-- The pattern that marked characters are. -/
def patternOf (text : Marked) : List PatternItem := patternItems text.length text

/-- Whether a character has a meaning in patterns. -/
def isPatternChar (c : Char) : Bool := c == '*' || c == '?' || c == '['

/-- The endings of a list, the longest first. -/
def endings {α : Type} : List α → List (List α)
  | [] => [[]]
  | a :: rest => (a :: rest) :: endings rest

/-- The beginnings of a list, the shortest first. -/
def beginnings {α : Type} : List α → List (List α)
  | [] => [[]]
  | a :: rest => [] :: (beginnings rest).map (a :: ·)

namespace PatternItem

/-- Whether a character is one that a piece stands for. -/
def has (c : Char) : PatternItem → Bool
  | one d => c == d
  | any => true
  | many => false
  | set negated items => items.any (·.has c) != negated

/-- The texts that are left of a text when what a pattern stands for is taken from its start, the
longer ones first; each is given as its length. -/
def leftovers : List PatternItem → List Char → List Nat
  | [], text => [text.length]
  | many :: rest, text => ((endings text).flatMap (leftovers rest)).eraseDups
  | item :: rest, c :: text => if item.has c then leftovers rest text else []
  | _ :: _, [] => []

/-- Whether a text is what a pattern stands for. -/
def matchesAll : List PatternItem → List Char → Bool
  | [], text => text.isEmpty
  | [many], _ => true
  | many :: rest, text => (endings text).any (matchesAll rest)
  | item :: rest, c :: text => item.has c && matchesAll rest text
  | _ :: _, [] => false

end PatternItem

/-- A text without the longest or shortest beginning that a pattern stands for. -/
def trimStart (longest : Bool) (pattern : List PatternItem) (text : List Char) : List Char :=
  let tails := if longest then (endings text).reverse else endings text
  let fits (tail : List Char) : Bool :=
    PatternItem.matchesAll pattern (text.take (text.length - tail.length))
  (tails.find? fits).getD text

/-- A text without the longest or shortest ending that a pattern stands for. -/
def trimEnd (longest : Bool) (pattern : List PatternItem) (text : List Char) : List Char :=
  let inits := if longest then beginnings text else (beginnings text).reverse
  (inits.find? fun init => PatternItem.matchesAll pattern (text.drop init.length)).getD text

/-- How many characters at the start of a text a pattern stands for, at most. -/
def longestMatch? (pattern : List PatternItem) (text : List Char) : Option Nat :=
  (PatternItem.leftovers pattern text).foldl (fun best left =>
    let taken := text.length - left
    some (max taken (best.getD 0))) none

/-- A text with something in place of what a pattern stands for, the first time or always; at most
so many characters are looked at. -/
def replaceIn (all : Bool) (pattern : List PatternItem) (replacement : List Char) :
    Nat → List Char → List Char
  | 0, text => text
  | _, [] => []
  | n + 1, c :: rest =>
    match longestMatch? pattern (c :: rest) with
    | some (taken + 1) =>
      let behind := rest.drop taken
      replacement ++ if all then replaceIn all pattern replacement n behind else behind
    | _ => c :: replaceIn all pattern replacement n rest

/-- A text with something in place of what a pattern stands for.  With an anchor only the start or
only the end of the text is looked at. -/
def replaceMatches (all : Bool) (anchor : Option Bool) (pattern : List PatternItem)
    (replacement text : List Char) : List Char :=
  match anchor with
  | none => replaceIn all pattern replacement (text.length + 1) text
  | some true =>
    match longestMatch? pattern text with
    | some n => replacement ++ text.drop n
    | none => text
  | some false =>
    let fits (init : List Char) := PatternItem.matchesAll pattern (text.drop init.length)
    match (beginnings text).find? fits with
    | some init => init ++ replacement
    | none => text

end Overseer.Shell
