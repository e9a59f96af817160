/-!
# Names and arguments in messages

A message that repeats a name or an argument shows every byte of it.  A name is shown so that a
shell would read it back: as it is where that is safe, else in quotes.  An argument stands between
quotes with escapes inside.

## Main definitions

* `quotedName` — a name in the quotes of a shell
* `shownName`, `shownWord` — a text in quotes only where it needs them
* `quotedArgument` — an argument between quotes
* `legible`, `hasMeaning`, `oneWord` — how the full shell shows texts and words
-/

namespace Overseer.Tools

/-- A byte that has a shape of its own on every terminal. -/
def hasShape (c : Char) : Bool := ' ' ≤ c && c ≤ '~'

/-- The letters that stand for control characters behind a backslash. -/
def controlLetters : List (Char × Char) :=
  [('\x07', 'a'), ('\x08', 'b'), ('\t', 't'), ('\n', 'n'), ('\x0b', 'v'), ('\x0c', 'f'),
    ('\r', 'r')]

/-- The three octal digits of a byte. -/
def octalDigits (c : Char) : List Char :=
  [c.toNat / 64, c.toNat / 8 % 8, c.toNat % 8].map Nat.digitChar

/-- What stands behind a backslash for a byte without a shape. -/
def escapeOf (c : Char) : List Char :=
  match controlLetters.lookup c with
  | some letter => [letter]
  | none => octalDigits c

/-- A character that means the same to a shell with weak quotes around it as without any.  `first`
holds at the beginning of a text, `only` for its single character. -/
def isTame (first only : Bool) (c : Char) : Bool :=
  c.isAlphanum || " '%+,-./:]_@".toList.contains c || (first && (c == '#' || c == '~')) ||
    (only && (c == '\x7b' || c == '\x7d'))

/-- A character that a shell does not take as it stands. -/
def isRisky (first only : Bool) (c : Char) : Bool :=
  !hasShape c || " !\"$&'()*;<=>?[\\^`|".toList.contains c ||
    (first && (c == '#' || c == '~')) || (only && (c == '\x7b' || c == '\x7d'))

/-- The characters of a text satisfy a condition that is told which is the first one, and whether it
is the only one. -/
def everyChar (condition : Bool → Bool → Char → Bool) : List Char → Bool
  | [] => true
  | c :: rest => condition true rest.isEmpty c && rest.all (condition false false)

/-- The inside of a name in quotes.  `open_` holds inside quotes for escapes, which are opened for a
byte without a shape and closed before the next other one. -/
def insideQuotes (open_ : Bool) : List Char → List Char
  | [] => []
  | c :: rest =>
    if c = '\'' then ['\'', '\\', '\'', '\''] ++ insideQuotes false rest
    else if hasShape c then (if open_ then ['\'', '\''] else []) ++ c :: insideQuotes false rest
    else
      (if open_ then [] else ['\'', '$', '\'']) ++ '\\' :: escapeOf c ++ insideQuotes true rest

/-- A name in the quotes of a shell: weak ones if an apostrophe is all that asks for them.  Where it
is not all, quotes for escapes that would be open at the end count as open at the beginning. -/
def quotedName (name : String) : String :=
  let chars := name.toList
  let apostrophe := chars.contains '\''
  if apostrophe ∧ everyChar isTame chars then "\"" ++ name ++ "\""
  else
    let open_ := apostrophe && chars.getLast?.any (!hasShape ·)
    "'" ++ String.ofList (insideQuotes open_ chars) ++ "'"

/-- A text, in quotes if a shell would not take it as it stands. -/
def shownWord (text : String) : String :=
  let safe (first only : Bool) (c : Char) : Bool := !isRisky first only c
  if !text.isEmpty ∧ everyChar safe text.toList then text else quotedName text

/-- A name in front of a colon, in quotes also if a colon in it might be taken for that one. -/
def shownName (name : String) : String :=
  if name.toList.contains ':' then quotedName name else shownWord name

/-- A character of an argument between quotes. -/
def argumentChar (c : Char) : List Char :=
  if c = '\'' ∨ c = '\\' then ['\\', c]
  else if hasShape c then [c]
  else '\\' :: escapeOf c

/-- An argument between quotes. -/
def quotedArgument (argument : String) : String :=
  "'" ++ String.ofList (argument.toList.flatMap argumentChar) ++ "'"

/-- A text as it is, or between dollar quotes if it has a byte without a shape. -/
def legible (text : String) : String :=
  let one (c : Char) : List Char := if c = '\x1b' then ['\\', 'E'] else argumentChar c
  if text.toList.all hasShape then text
  else "$'" ++ String.ofList (text.toList.flatMap one) ++ "'"

/-- A character has a meaning to the full shell where it stands.  `before` is the one before it. -/
def isMeaningful (before : Option Char) (c : Char) : Bool :=
  " \t\n!\"$&'()*;<>?[\\]^`\x7b|\x7d".toList.contains c || (c == '#' && before.isNone) ||
    (c == '~' && before.all fun b => b == ':' || b == '=')

/-- The characters of a text, each with the one before it. -/
def withBefore (chars : List Char) : List (Option Char × Char) :=
  (none :: chars.map some).zip chars

/-- Some character of a text has a meaning to the full shell. -/
def hasMeaning (text : String) : Bool :=
  (withBefore text.toList).any fun (before, c) => isMeaningful before c

/-- A text as one word of the full shell, with backslashes before the characters that have a
meaning, and before commas. -/
def oneWord (text : String) : String :=
  if text.isEmpty then "''"
  else if text.toList.all hasShape then
    String.ofList ((withBefore text.toList).flatMap fun (before, c) =>
      if isMeaningful before c || c == ',' then ['\\', c] else [c])
  else legible text

end Overseer.Tools
