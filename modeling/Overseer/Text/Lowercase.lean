import Overseer.Text.CaseContext
import Overseer.Text.LowercaseTable

/-!
# Lower case of a text

Full lower-casing of the Unicode standard.  It is not a map of single characters: `İ` becomes two
characters, and `Σ` becomes `ς` at the end of a word and `σ` elsewhere, where a word is judged from
the nearest neighbours on both sides that are not case-ignorable.

## Main definitions

* `lowerChar` — the lower case of a character wherever it stands
* `endsWord` — whether a `Σ` between the two given contexts ends a word
* `lowercase` — the lower case of a text
-/

namespace Overseer.Text

/-- The lower case of a character other than `Σ`, whose form depends on its place. -/
def lowerChar (c : Char) : List Char :=
  if c = 'İ' then ['i', '\u0307']
  else match lowercaseRuns.findSome? (·.image? c.toNat) with
    | some n => [Char.ofNat n]
    | none => [c]

/-- The nearest character that is not case-ignorable has case. -/
def cased? (cs : List Char) : Bool :=
  match cs.dropWhile isCaseIgnorable with
  | c :: _ => isCased c
  | [] => false

/-- A `Σ` ends a word when a cased character stands before it and none behind it.  `before` is given
from the `Σ` backwards. -/
def endsWord (before after : List Char) : Bool :=
  cased? before && !cased? after

/-- Lower case of the characters of a list that stands behind `before`, given backwards. -/
def lowerAfter (before : List Char) : List Char → List Char
  | [] => []
  | c :: rest =>
    (if c = 'Σ' then [if endsWord before rest then 'ς' else 'σ'] else lowerChar c) ++
      lowerAfter (c :: before) rest

/-- Lower case of a list of characters. -/
def lowerChars (cs : List Char) : List Char := lowerAfter [] cs

/-- The lower case of a text. -/
def lowercase (s : String) : String := String.ofList (lowerChars s.toList)

@[simp] theorem toList_lowercase (s : String) : (lowercase s).toList = lowerChars s.toList := by
  simp [lowercase]

end Overseer.Text
