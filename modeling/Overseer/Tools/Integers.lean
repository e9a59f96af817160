/-!
# Integers in arguments

An integer may have a sign and blanks around it.

## Main definitions

* `integerOf?` — the integer that an argument is
* `wordOf?` — that integer if it has 64 bits
-/

namespace Overseer.Tools

/-- The least integer of 64 bits. -/
def leastInteger : Int := -9223372036854775808

/-- The greatest integer of 64 bits. -/
def greatestInteger : Int := 9223372036854775807

/-- Numbers of 64 bits without a sign stay below this. -/
def unsignedBound : Int := 18446744073709551616

/-- The number that digits are. -/
def natural? (digits : List Char) : Option Nat :=
  (String.ofList digits).toNat?.filter fun _ => digits.all Char.isDigit

/-- The integer that an argument is. -/
def integerOf? (text : String) : Option Int :=
  let trim (cs : List Char) : List Char := cs.dropWhile fun c => c == ' ' || c == '\t' || c == '\n'
  let chars := (trim (trim text.toList).reverse).reverse
  match chars with
  | '-' :: digits => (natural? digits).map fun n => -n
  | '+' :: digits => (natural? digits).map (Int.ofNat ·)
  | digits => (natural? digits).map (Int.ofNat ·)

/-- The integer of 64 bits that an argument is. -/
def wordOf? (text : String) : Option Int :=
  (integerOf? text).filter fun n => leastInteger ≤ n ∧ n ≤ greatestInteger

end Overseer.Tools
