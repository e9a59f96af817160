/-!
# Unsigned decimal numbers in text

The numbers that settings and scripts may write: an optional plus sign and at least one ASCII digit,
below a bound.  Leading zeros are allowed; no sign but the plus is, and no other digits are.

## Main definitions

* `digits?` — the value of a list of ASCII digits
* `unsigned?` — the value of a number below a bound
-/

namespace Overseer.Text

/-- The value of an ASCII digit. -/
def digit? (c : Char) : Option Nat :=
  if '0' ≤ c ∧ c ≤ '9' then some (c.toNat - '0'.toNat) else none

/-- The value of `acc` followed by the given digits, none if one of them is not an ASCII digit. -/
def digitsFrom? (acc : Nat) : List Char → Option Nat
  | [] => some acc
  | c :: rest => (digit? c).bind fun d => digitsFrom? (10 * acc + d) rest

/-- The value of a non-empty list of ASCII digits. -/
def digits? : List Char → Option Nat
  | [] => none
  | cs => digitsFrom? 0 cs

/-- The value of a number: digits, behind a plus sign or not. -/
def unsignedChars? : List Char → Option Nat
  | '+' :: rest => digits? rest
  | cs => digits? cs

/-- The number that a text denotes, if it denotes one below the bound. -/
def unsigned? (bound : Nat) (s : String) : Option Nat :=
  (unsignedChars? s.toList).filter (· < bound)

end Overseer.Text
