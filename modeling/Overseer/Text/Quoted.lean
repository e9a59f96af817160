import Overseer.Text.Visibility

/-!
# Quoted text in messages

A text inside a message is put between quotes and written so that every character of it can be told:
quotes and backslashes get a backslash, the common control characters their letter, and whatever
prints nothing or attaches to its neighbour its code point.

## Main definitions

* `hexDigits` — a number in lower-case hexadecimal
* `quoteChar` — one character as it stands between quotes
* `quote` — a text between quotes
-/

namespace Overseer.Text

/-- A number in lower-case hexadecimal, without leading zeros. -/
def hexDigits (n : Nat) : List Char := Nat.toDigits 16 n

/-- A code point as it is written between quotes when the character itself cannot stand there. -/
def escapeCode (c : Char) : List Char :=
  ['\\', 'u', '\x7b'] ++ hexDigits c.toNat ++ ['\x7d']

/-- A character as it is written between quotes. -/
def quoteChar (c : Char) : List Char :=
  if c = '\x00' then ['\\', '0']
  else if c = '\t' then ['\\', 't']
  else if c = '\r' then ['\\', 'r']
  else if c = '\n' then ['\\', 'n']
  else if c = '"' then ['\\', '"']
  else if c = '\\' then ['\\', '\\']
  else if isGraphemeExtender c then escapeCode c
  else if isPrintable c then [c]
  else escapeCode c

/-- The characters of a quoted text, the quotes included. -/
def quoteChars (cs : List Char) : List Char := '"' :: cs.flatMap quoteChar ++ ['"']

/-- A text between quotes, every character of it recognisable. -/
def quote (s : String) : String := String.ofList (quoteChars s.toList)

end Overseer.Text
