/-!
# Decimal numbers as they are written

## Main definitions

* `natural` — a natural number
* `integer` — an integer, with a minus sign where it needs one
* `padded` — a natural number in at least the given number of digits
-/

namespace Overseer.Text

/-- The digits of a natural number. -/
def natural (n : Nat) : List Char := Nat.toDigits 10 n

/-- The digits of an integer, a minus sign before those of a negative one. -/
def integer (n : Int) : List Char :=
  if n < 0 then '-' :: natural n.natAbs else natural n.natAbs

/-- The digits of a natural number, zeros before them up to the given width. -/
def padded (width n : Nat) : List Char :=
  List.replicate (width - (natural n).length) '0' ++ natural n

/-- A natural number as a text. -/
def naturalText (n : Nat) : String := String.ofList (natural n)

/-- An integer as a text. -/
def integerText (n : Int) : String := String.ofList (integer n)

end Overseer.Text
