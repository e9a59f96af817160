import Overseer.Text.Blank

/-!
# Cleaned terminal output

What a program prints for a terminal is turned into plain text: line ends become single newlines,
escape sequences disappear whole, other control characters but the tab disappear one by one, and the
text ends in its last character that is not blank.

The text is cleaned *line by line*, so a sequence that a line leaves open ends with the line.

## Main definitions

* `isControl` — the general category Cc
* `skipEscape` — what is left of a line behind an escape sequence
* `visible` — the characters of a line that stay
* `clean` — a cleaned text
-/

namespace Overseer.Terminal

open Overseer.Text

/-- The character that opens an escape sequence. -/
def escape : Char := '\x1b'

/-- The character that rings the bell, and closes a title sequence. -/
def bell : Char := '\x07'

/-- Control characters: the general category Cc. -/
def isControl (c : Char) : Bool :=
  c.toNat < 0x20 || (0x7F ≤ c.toNat && c.toNat ≤ 0x9F)

/-- The characters `@` to `~`, each of which closes a control sequence. -/
def isFinal (c : Char) : Bool :=
  0x40 ≤ c.toNat && c.toNat ≤ 0x7E

/-- What is left behind a control sequence: everything after its final character. -/
def skipControl (cs : List Char) : List Char :=
  (cs.dropWhile fun c => !isFinal c).tail

/-- What is left behind a title sequence, which ends at a bell or at an escape character; a
backslash behind that escape character belongs to it. -/
def skipTitle : List Char → List Char
  | [] => []
  | c :: rest =>
    if c = bell then rest
    else if c = escape then
      match rest with
      | '\\' :: rest' => rest'
      | _ => rest
    else skipTitle rest

/-- What is left of a line when the escape character has just been read. -/
def skipEscape : List Char → List Char
  | [] => []
  | '[' :: rest => skipControl rest
  | ']' :: rest => skipTitle rest
  | _ :: rest => rest

theorem length_skipControl_le (cs : List Char) : (skipControl cs).length ≤ cs.length := by
  have := (List.dropWhile_sublist (fun c => !isFinal c) (l := cs)).length_le
  simp only [skipControl, List.length_tail]
  omega

theorem length_skipTitle_le (cs : List Char) : (skipTitle cs).length ≤ cs.length := by
  induction cs with
  | nil => simp [skipTitle]
  | cons c rest ih =>
    unfold skipTitle
    split
    · simp
    · split
      · split <;> simp; omega
      · simpa using Nat.le_succ_of_le ih

theorem length_skipEscape_le (cs : List Char) : (skipEscape cs).length ≤ cs.length := by
  unfold skipEscape
  split
  · simp
  · simpa using Nat.le_succ_of_le (length_skipControl_le _)
  · simpa using Nat.le_succ_of_le (length_skipTitle_le _)
  · simp

/-- Writes behind `out` the characters of a line that stay. -/
def pushVisible (out : String) : List Char → String
  | [] => out
  | c :: rest =>
    if c = escape then pushVisible out (skipEscape rest)
    else if c = '\t' then pushVisible (out.push c) rest
    else if isControl c then pushVisible out rest
    else pushVisible (out.push c) rest
  termination_by cs => cs.length
  decreasing_by
    · exact Nat.lt_succ_of_le (length_skipEscape_le rest)
    all_goals simp

/-- The characters of a line that stay. -/
def visible : List Char → List Char
  | [] => []
  | c :: rest =>
    if c = escape then visible (skipEscape rest)
    else if c = '\t' then c :: visible rest
    else if isControl c then visible rest
    else c :: visible rest
  termination_by cs => cs.length
  decreasing_by
    · exact Nat.lt_succ_of_le (length_skipEscape_le rest)
    all_goals simp

/-- A line without the carriage return at its end, if there is one. -/
def dropReturn (line : List Char) : List Char :=
  if line.getLast? = some '\r' then line.dropLast else line

/-- Writes a cleaned line and its newline behind `out`. -/
def pushLine (out : String) (line : List Char) : String :=
  (pushVisible out (dropReturn line)).push '\n'

/-- A text cleaned of everything that only a terminal can show. -/
def clean (raw : String) : String :=
  trimEnd ((raw.toList.splitOn '\n').foldl pushLine "")

/-- Writing behind a text and reading the line alone say the same. -/
theorem toList_pushVisible (out : String) (cs : List Char) :
    (pushVisible out cs).toList = out.toList ++ visible cs := by
  fun_induction pushVisible out cs with
  | case1 => simp [visible]
  | case2 out rest ih => rw [visible, ih]; simp
  | case3 out rest _ ih => rw [visible, ih]; simp [escape]
  | case4 out c rest h₁ h₂ h₃ ih => rw [visible, ih]; simp [h₁, h₂, h₃]
  | case5 out c rest h₁ h₂ h₃ ih => rw [visible, ih]; simp [h₁, h₂, h₃]

end Overseer.Terminal
