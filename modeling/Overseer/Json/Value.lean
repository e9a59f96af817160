import Overseer.Text.Decimal

/-!
# Compact JSON text

The values that reports are made of and their one compact text: no blanks, the fields of an object
in the order in which they are given, and no escapes but those that JSON demands.

## Main definitions

* `Value` — null, booleans, integers, strings and objects
* `escapeChar` — a character as it stands inside a JSON string
* `Value.render` — the compact text of a value
-/

namespace Overseer.Json

open Overseer.Text

/-- A JSON value without arrays and fractions, which reports do not use. -/
inductive Value where
  | null
  | bool (b : Bool)
  | integer (n : Int)
  | string (s : String)
  | object (fields : List (String × Value))
  deriving Inhabited

/-- A hexadecimal digit. -/
def hexDigit (n : Nat) : Char := Nat.digitChar n

/-- A character as it stands inside a JSON string.  Only quotes, backslashes and the characters
below the space are escaped, those with a letter of their own by that letter. -/
def escapeChar (c : Char) : List Char :=
  if c = '"' then ['\\', '"']
  else if c = '\\' then ['\\', '\\']
  else if c = '\x08' then ['\\', 'b']
  else if c = '\t' then ['\\', 't']
  else if c = '\n' then ['\\', 'n']
  else if c = '\x0c' then ['\\', 'f']
  else if c = '\r' then ['\\', 'r']
  else if c.toNat < 0x20 then
    ['\\', 'u', '0', '0', hexDigit (c.toNat / 16), hexDigit (c.toNat % 16)]
  else [c]

/-- A JSON string, its quotes included. -/
def renderString (s : String) : List Char := '"' :: s.toList.flatMap escapeChar ++ ['"']

/-- An optional value, `null` in place of a missing one. -/
def Value.ofOption {α : Type} (f : α → Value) : Option α → Value
  | none => .null
  | some a => f a

namespace Value

mutual

/-- The compact text of a value. -/
def renderChars : Value → List Char
  | null => ['n', 'u', 'l', 'l']
  | bool true => ['t', 'r', 'u', 'e']
  | bool false => ['f', 'a', 'l', 's', 'e']
  | integer n => Text.integer n
  | string s => renderString s
  | object fields => '\x7b' :: renderFields fields ++ ['\x7d']

/-- The fields of an object, with commas between them. -/
def renderFields : List (String × Value) → List Char
  | [] => []
  | [f] => renderString f.1 ++ ':' :: renderChars f.2
  | f :: g :: rest => renderString f.1 ++ ':' :: renderChars f.2 ++ ',' :: renderFields (g :: rest)

end

/-- The compact text of a value. -/
def render (v : Value) : String := String.ofList v.renderChars

end Value

end Overseer.Json
