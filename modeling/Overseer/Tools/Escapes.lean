/-!
# Escapes

Behind a backslash a character may stand for another one.  Which ones do, and how numbers are
written, differs from command to command.

## Main definitions

* `Manner` — whose conventions a command follows
* `EscapeRules` — the conventions about escapes
* `unescape` — a text whose escapes have been replaced
-/

namespace Overseer.Tools

/-- Whose conventions a command follows. -/
inductive Manner where
  /-- those of the full shell -/
  | full
  /-- those of the plain shell -/
  | plain
  /-- those of the tools outside the shells -/
  | tool
  deriving DecidableEq, Repr, Inhabited

/-- The conventions about escapes. -/
structure EscapeRules where
  /-- octal numbers may stand directly behind the backslash -/
  bareOctal : Bool
  /-- a zero before an octal number does not count as one of its digits -/
  leadingZero : Bool
  /-- there are hexadecimal numbers -/
  hexadecimal : Bool
  /-- quotes may be escaped -/
  quotes : Bool
  /-- one escape ends the output -/
  stop : Bool
  deriving Repr

/-- The escapes of letters. -/
def letterEscapes : List (Char × Char) :=
  [('a', '\x07'), ('b', '\x08'), ('e', '\x1b'), ('f', '\x0c'), ('n', '\n'), ('r', '\r'),
    ('t', '\t'), ('v', '\x0b'), ('\\', '\\')]

/-- The value of a digit to a base up to 16. -/
def digitOf? (base : Nat) (c : Char) : Option Nat :=
  let value := if c.isDigit then some (c.toNat - '0'.toNat)
    else if 'a' ≤ c ∧ c ≤ 'f' then some (c.toNat - 'a'.toNat + 10)
    else if 'A' ≤ c ∧ c ≤ 'F' then some (c.toNat - 'A'.toNat + 10)
    else none
  value.filter (· < base)

/-- At most so many digits at the start of a text: their value, and what is behind them. -/
def digitsFrom (base value : Nat) : (limit : Nat) → List Char → Nat × List Char
  | limit + 1, c :: rest =>
    match digitOf? base c with
    | some d => digitsFrom base (value * base + d) limit rest
    | none => (value, c :: rest)
  | _, rest => (value, rest)

/-- What the text behind a backslash begins with. -/
inductive Escaped where
  /-- it stands for a character, and this is behind it -/
  | made (c : Char) (rest : List Char)
  /-- the output ends here -/
  | ends
  /-- it has no meaning -/
  | nothing

/-- What the text behind a backslash begins with. -/
def escapeAt (rules : EscapeRules) : List Char → Escaped
  | [] => .nothing
  | c :: rest =>
    let octal (from_ : List Char) : Escaped :=
      let (n, behind) := digitsFrom 8 0 3 from_
      .made (Char.ofNat (n % 256)) behind
    match letterEscapes.lookup c with
    | some e => .made e rest
    | none =>
      if c = 'c' ∧ rules.stop then .ends
      else if c = '0' ∧ rules.leadingZero then octal rest
      else if (digitOf? 8 c).isSome ∧ rules.bareOctal then octal (c :: rest)
      else if c = 'x' ∧ rules.hexadecimal ∧ (rest.head?.bind (digitOf? 16)).isSome then
        let (n, behind) := digitsFrom 16 0 2 rest
        .made (Char.ofNat n) behind
      else if rules.quotes ∧ (c = '"' ∨ c = '\'' ∨ c = '?') then .made c rest
      else .nothing

/-- A text whose escapes have been replaced, and whether the output ends with it; at most so many
characters are looked at. -/
def unescapeFor (rules : EscapeRules) : Nat → (sofar : List Char) → List Char → List Char × Bool
  | 0, sofar, _ => (sofar.reverse, false)
  | _, sofar, [] => (sofar.reverse, false)
  | n + 1, sofar, '\\' :: rest =>
    match escapeAt rules rest with
    | .made c rest => unescapeFor rules n (c :: sofar) rest
    | .ends => (sofar.reverse, true)
    | .nothing => unescapeFor rules n ('\\' :: sofar) rest
  | n + 1, sofar, c :: rest => unescapeFor rules n (c :: sofar) rest

/-- A text whose escapes have been replaced, and whether the output ends with it. -/
def unescape (rules : EscapeRules) (text : String) : String × Bool :=
  let (chars, ends) := unescapeFor rules (text.length + 1) [] text.toList
  (String.ofList chars, ends)

end Overseer.Tools
