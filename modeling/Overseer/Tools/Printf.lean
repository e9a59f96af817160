import Overseer.Tools.Escapes
import Overseer.Tools.Integers
import Overseer.Tools.Quoting

/-!
# Formatted output

A format is text with directives, each of which writes an argument in its own way.  As long as
arguments are left the format is used again.

## Main definitions

* `Directive` — what a directive asks for
* `Printing` — the state of the output
* `printFormat` — what is written for a format and arguments
-/

namespace Overseer.Tools

/-- A number in a directive. -/
inductive Amount where
  /-- there is none -/
  | absent
  /-- it is given -/
  | given (n : Int)
  /-- the next argument is the number -/
  | fromArgument
  deriving DecidableEq, Repr

/-- What a directive asks for. -/
structure Directive where
  /-- the characters between the percent sign and the width -/
  flags : List Char := []
  /-- the least number of characters -/
  width : Amount := .absent
  /-- the number of characters or digits -/
  precision : Amount := .absent
  /-- the letter at its end -/
  letter : Char
  deriving Repr

/-- A piece of a format. -/
inductive FormatPiece where
  | text (text : String)
  /-- the output ends here -/
  | ends
  | directive (d : Directive)
  /-- this is no directive -/
  | invalid (text : String)
  /-- the format ends within a directive -/
  | cutOff (text : String)
  deriving Repr

/-- The escapes of formats. -/
def formatRules : Manner → EscapeRules
  | .full => ⟨true, false, true, true, false⟩
  | .plain => ⟨true, false, false, false, false⟩
  | .tool => ⟨true, false, true, true, true⟩

/-- The escapes of arguments. -/
def argumentRules : Manner → EscapeRules
  | .full => ⟨true, true, true, true, true⟩
  | .plain => ⟨true, true, false, false, true⟩
  | .tool => ⟨true, true, true, true, true⟩

/-- The letters that directives end with. -/
def directiveLetters (manner : Manner) : List Char :=
  "diouxXeEfFgGaAcsb".toList ++ if manner == Manner.plain then [] else ['q']

/-- A number at the start of a text, and what is behind it. -/
def amountAt : List Char → Amount × List Char
  | '*' :: rest => (.fromArgument, rest)
  | text =>
    let digits := text.takeWhile Char.isDigit
    let amount : Amount := match (String.ofList digits).toNat? with
      | some n => Amount.given n
      | none => Amount.absent
    (amount, text.drop digits.length)

/-- The directive behind a percent sign, and what is behind it. -/
def directiveAt (manner : Manner) (text : List Char) : FormatPiece × List Char :=
  let flags := text.takeWhile fun c => "-+ 0#".toList.contains c
  let rest := text.drop flags.length
  let (width, rest) := amountAt rest
  let (precision, rest) := match rest with
    | '.' :: rest =>
      match amountAt rest with
      | (Amount.absent, rest) => (Amount.given 0, rest)
      | r => r
    | rest => (Amount.absent, rest)
  let isLength (c : Char) := manner != Manner.plain && "hlLjzt".toList.contains c
  let rest := rest.dropWhile isLength
  let read (behind : List Char) : String := String.ofList (text.take (text.length - behind.length))
  match rest with
  | [] => (.cutOff ("%" ++ read []), [])
  | letter :: behind =>
    if (directiveLetters manner).contains letter then
      (.directive { flags, width, precision, letter }, behind)
    else
      (.invalid (if manner == Manner.full then letter.toString else "%" ++ read behind), behind)

/-- The pieces of a format; at most so many characters are looked at. -/
def formatPieces (manner : Manner) : Nat → (sofar : List Char) → List Char → List FormatPiece
  | 0, _, _ => []
  | n + 1, sofar, text =>
    let flush (rest : List FormatPiece) : List FormatPiece :=
      if sofar.isEmpty then rest else .text (String.ofList sofar.reverse) :: rest
    match text with
    | [] => flush []
    | '\\' :: rest =>
      match escapeAt (formatRules manner) rest with
      | .made c rest => formatPieces manner n (c :: sofar) rest
      | .ends => flush [.ends]
      | .nothing => formatPieces manner n ('\\' :: sofar) rest
    | '%' :: '%' :: rest => formatPieces manner n ('%' :: sofar) rest
    | '%' :: rest =>
      let (piece, rest) := directiveAt manner rest
      flush (piece :: formatPieces manner n [] rest)
    | c :: rest => formatPieces manner n (c :: sofar) rest

/-! ## Numbers -/

/-- A power of ten. -/
def powerOfTen (n : Nat) : Nat := Nat.pow 10 n

/-- How an argument that should be a number fell short of it. -/
inductive NumberFault where
  /-- it did not -/
  | none
  /-- it begins with no number -/
  | noNumber
  /-- something stands behind the number -/
  | partly
  /-- the number is too large -/
  | tooLarge
  /-- it is a quote without a character behind it -/
  | loneQuote
  /-- something stands behind the character that a quote gives the number of -/
  | behindCharacter
  deriving DecidableEq, Repr

/-- The integer that an argument is, and how it fell short of being one. -/
def integerArgument (text : String) : Int × NumberFault :=
  match text.toList.dropWhile fun c => c == ' ' || c == '\t' || c == '\n' with
  | [] => (0, .none)
  | ['\''] | ['"'] => (0, .loneQuote)
  | '\'' :: c :: rest | '"' :: c :: rest =>
    (c.toNat, if rest.isEmpty then .none else .behindCharacter)
  | chars =>
    let negative := chars.head? == some '-'
    let unsigned := if negative || chars.head? == some '+' then chars.drop 1 else chars
    let (base, digits) := match unsigned with
      | '0' :: 'x' :: rest | '0' :: 'X' :: rest => (16, rest)
      | '0' :: rest => (8, '0' :: rest)
      | rest => (10, rest)
    let (n, behind) := digitsFrom base 0 digits.length digits
    let value : Int := if negative then -n else n
    let fault :=
      if behind.length = digits.length then
        if base = 16 then NumberFault.partly else .noNumber
      else if !behind.isEmpty then .partly
      else if value < leastInteger ∨ unsignedBound ≤ value then .tooLarge
      else .none
    (if fault = .noNumber then 0 else value, fault)

/-- A decimal number: a sign, an integer, and how many of its digits are behind the point. -/
structure DecimalNumber where
  /-- it is below zero -/
  negative : Bool
  /-- all digits -/
  digits : Nat
  /-- the power of ten by which they are multiplied -/
  exponent : Int
  deriving Repr

/-- The decimal number that an argument is, and how it fell short of being one. -/
def decimalArgument (text : String) : DecimalNumber × NumberFault :=
  let chars := text.toList.dropWhile fun c => c == ' ' || c == '\t'
  let negative := chars.head? == some '-'
  let unsigned := if negative || chars.head? == some '+' then chars.drop 1 else chars
  let whole := unsigned.takeWhile Char.isDigit
  let rest := unsigned.drop whole.length
  let (fraction, rest) := match rest with
    | '.' :: more =>
      let fraction := more.takeWhile Char.isDigit
      (fraction, more.drop fraction.length)
    | rest => ([], rest)
  let (power, rest) := match rest with
    | 'e' :: more | 'E' :: more =>
      let sign := more.head?
      let digits := if sign == some '-' || sign == some '+' then more.drop 1 else more
      let number := digits.takeWhile Char.isDigit
      match (String.ofList number).toNat? with
      | some n => ((if sign == some '-' then -(n : Int) else n), digits.drop number.length)
      | none => (0, rest)
    | rest => ((0 : Int), rest)
  let digits := (String.ofList (whole ++ fraction)).toNat?.getD 0
  let fault :=
    if whole.isEmpty ∧ fraction.isEmpty then
      if text.isEmpty then NumberFault.none else .noNumber
    else if rest.isEmpty then .none
    else .partly
  (⟨negative, digits, power - fraction.length⟩, fault)

/-- A quotient rounded to the nearest integer, halves to the even neighbour. -/
def roundDiv (a b : Nat) : Nat :=
  let q := a / b
  let r := 2 * (a % b)
  if b < r ∨ (r = b ∧ q % 2 = 1) then q + 1 else q

/-- The digits of `n * 10 ^ exponent`, rounded to an integer. -/
def scaled (n : Nat) (exponent : Int) : Nat :=
  if exponent < 0 then roundDiv n (powerOfTen exponent.natAbs) else n * powerOfTen exponent.natAbs

/-- Digits with zeros before them. -/
def zeroPadded (width n : Nat) : String :=
  let digits := toString n
  "".pushn '0' (width - digits.length) ++ digits

/-- A decimal number with so many digits behind the point. -/
def fixedText (places : Nat) (d : DecimalNumber) : String :=
  let digits := zeroPadded (places + 1) (scaled d.digits (d.exponent + places))
  let whole := String.ofList (digits.toList.take (digits.length - places))
  let fraction := String.ofList (digits.toList.drop (digits.length - places))
  if places = 0 then whole else whole ++ "." ++ fraction

/-- The first so many digits of a decimal number, rounded, and the power of ten of the first of
them. -/
def leadingDigits (count : Nat) (d : DecimalNumber) : Nat × Int :=
  if d.digits = 0 then (0, 0)
  else
    let length := (toString d.digits).length
    let power : Int := d.exponent + length - 1
    let n := scaled d.digits (d.exponent - power + count - 1)
    if n < powerOfTen count then (n, power) else (n / 10, power + 1)

/-- The text of a power of ten. -/
def powerText (power : Int) : String :=
  "e" ++ (if power < 0 then "-" else "+") ++ zeroPadded 2 power.natAbs

/-- A decimal number as a digit, so many digits behind the point, and a power of ten. -/
def scientificText (places : Nat) (d : DecimalNumber) : String :=
  let (n, power) := leadingDigits (places + 1) d
  let digits := zeroPadded (places + 1) n
  let first := String.ofList (digits.toList.take 1)
  let fraction := String.ofList (digits.toList.drop 1)
  (if places = 0 then first else first ++ "." ++ fraction) ++ powerText power

/-- A text without zeros at the end of its fraction. -/
def withoutZeros (text : String) : String :=
  if text.toList.contains '.' then
    let kept := text.toList.reverse.dropWhile (· == '0')
    String.ofList ((if kept.head? == some '.' then kept.drop 1 else kept).reverse)
  else text

/-- A decimal number with so many digits in all, in the shorter of two ways. -/
def generalText (digits : Nat) (d : DecimalNumber) : String :=
  let count := max digits 1
  let (_, power) := leadingDigits count d
  if power < -4 ∨ (count : Int) ≤ power then
    let text := scientificText (count - 1) d
    match text.splitOn "e" with
    | [mantissa, rest] => withoutZeros mantissa ++ "e" ++ rest
    | _ => text
  else withoutZeros (fixedText ((count : Int) - 1 - power).toNat d)

/-! ## Output -/

/-- The state of the output. -/
structure Printing where
  /-- what has been written, the last piece first -/
  written : List String := []
  /-- the arguments that are left -/
  arguments : List String
  /-- what is reported, the last report first -/
  reports : List String := []
  /-- something went wrong -/
  failed : Bool := false
  /-- nothing more is written -/
  stopped : Bool := false
  /-- the format itself is wrong -/
  badFormat : Bool := false

namespace Printing

/-- Writes a text. -/
def write (text : String) (p : Printing) : Printing := { p with written := text :: p.written }

/-- Reports something. -/
def report (text : String) (p : Printing) : Printing :=
  { p with reports := text :: p.reports, failed := true }

/-- Takes the next argument. -/
def take? (p : Printing) : Option String × Printing :=
  (p.arguments.head?, { p with arguments := p.arguments.drop 1 })

/-- Reports how an argument fell short of being a number. -/
def reportFault (manner : Manner) (argument : String) (fault : NumberFault) (p : Printing) :
    Printing :=
  let outOfRange := "Numerical result out of range"
  match manner, fault with
  | _, .none => p
  | .tool, .behindCharacter =>
    let message := "warning: " ++ String.ofList (argument.toList.drop 2) ++
      ": character(s) following character constant have been ignored"
    { p.report message with failed := p.failed }
  | .full, .loneQuote | .plain, .loneQuote | _, .behindCharacter => p
  | .full, .tooLarge =>
    { p.report ("warning: " ++ argument ++ ": " ++ outOfRange) with failed := p.failed }
  | .full, _ =>
    let kind := match argument.toList with
      | '0' :: c :: _ => if c.isDigit then "octal number"
        else if c = 'x' then "hex number" else "number"
      | _ => "number"
    p.report (argument ++ ": invalid " ++ kind)
  | .plain, .noNumber => p.report (argument ++ ": expected numeric value")
  | .plain, .tooLarge => p.report (argument ++ ": " ++ outOfRange)
  | .plain, _ => p.report (argument ++ ": not completely converted")
  | .tool, .noNumber | .tool, .loneQuote => p.report (quotedArgument argument ++ ": expected a numeric value")
  | .tool, .tooLarge => p.report (quotedArgument argument ++ ": " ++ outOfRange)
  | .tool, _ => p.report (quotedArgument argument ++ ": value not completely converted")

/-- The integer that the next argument is. -/
def takeInteger (manner : Manner) (p : Printing) : Int × Printing :=
  match p.take? with
  | (none, p) => (0, p)
  | (some argument, p) =>
    let (n, fault) := integerArgument argument
    (n, p.reportFault manner argument fault)

/-- A number that a directive needs. -/
def amount (manner : Manner) (a : Amount) (p : Printing) : Option Int × Printing :=
  match a with
  | .absent => (none, p)
  | .given n => (some n, p)
  | .fromArgument =>
    let (n, p) := p.takeInteger manner
    (some n, p)

end Printing

/-- A text filled up to a width. -/
def padded (left zeros : Bool) (width : Nat) (sign text : String) : String :=
  let missing := width - (sign.length + text.length)
  if left then sign ++ text ++ "".pushn ' ' missing
  else if zeros then sign ++ "".pushn '0' missing ++ text
  else "".pushn ' ' missing ++ sign ++ text

/-- The sign of a number. -/
def signText (flags : List Char) (negative : Bool) : String :=
  if negative then "-"
  else if flags.contains '+' then "+"
  else if flags.contains ' ' then " "
  else ""

/-- The digits of a number to a base. -/
def digitsText (base : Nat) (upper : Bool) (n : Nat) : String :=
  let digits := Nat.toDigits base n
  String.ofList (if upper then digits.map Char.toUpper else digits)

/-- Carries out a directive. -/
def printDirective (manner : Manner) (d : Directive) (p : Printing) : Printing :=
  let (width, p) := p.amount manner d.width
  let (precision, p) := p.amount manner d.precision
  let left := d.flags.contains '-' || width.any (· < 0)
  let width := (width.map (·.natAbs)).getD 0
  let precision := (precision.filter (0 ≤ ·)).map (·.toNat)
  let zeros := d.flags.contains '0'
  let cut (text : String) : String := match precision with
    | some n => String.ofList (text.toList.take n)
    | none => text
  let integer (base : Nat) (upper : Bool) (sign mark : String) (n : Nat) : String :=
    let digits := digitsText base upper n
    let digits := match precision with
      | some k => "".pushn '0' (k - digits.length) ++ digits
      | none => digits
    padded left (zeros && precision.isNone) width (sign ++ mark) digits
  let marked (mark : String) : String := if d.flags.contains '#' then mark else ""
  let decimal (make : Nat → DecimalNumber → String) (upper : Bool) (p : Printing) : Printing :=
    let (argument, p) := p.take?
    let (n, fault) := decimalArgument (argument.getD "")
    let p := match argument with
      | some a => p.reportFault manner a fault
      | none => p
    let text := make (precision.getD 6) n
    let text := if upper then String.ofList (text.toList.map Char.toUpper) else text
    p.write (padded left zeros width (signText d.flags n.negative) text)
  match d.letter with
  | 's' =>
    let (argument, p) := p.take?
    p.write (padded left false width "" (cut (argument.getD "")))
  | 'q' =>
    let (argument, p) := p.take?
    let word := match manner with
      | .tool => shownWord (argument.getD "")
      | _ => oneWord (argument.getD "")
    p.write (padded left false width "" (cut word))
  | 'b' =>
    let (argument, p) := p.take?
    let (text, ends) := unescape (argumentRules manner) (argument.getD "")
    { p.write (padded left false width "" (cut text)) with stopped := ends }
  | 'c' =>
    let (argument, p) := p.take?
    let c := ((argument.getD "").toList.head?).getD '\x00'
    p.write (padded left false width "" c.toString)
  | 'd' | 'i' =>
    let (n, p) := p.takeInteger manner
    let n := max leastInteger (min n greatestInteger)
    p.write (integer 10 false (signText d.flags (n < 0)) "" n.natAbs)
  | 'u' =>
    let (n, p) := p.takeInteger manner
    p.write (integer 10 false "" "" (n % unsignedBound).toNat)
  | 'o' =>
    let (n, p) := p.takeInteger manner
    p.write (integer 8 false "" (marked "0") (n % unsignedBound).toNat)
  | 'x' =>
    let (n, p) := p.takeInteger manner
    p.write (integer 16 false "" (marked "0x") (n % unsignedBound).toNat)
  | 'X' =>
    let (n, p) := p.takeInteger manner
    p.write (integer 16 true "" (marked "0X") (n % unsignedBound).toNat)
  | 'f' | 'F' => decimal fixedText false p
  | 'e' => decimal scientificText false p
  | 'E' => decimal scientificText true p
  | 'g' => decimal generalText false p
  | 'G' => decimal generalText true p
  | _ => p

/-- Carries out the pieces of a format. -/
def printPieces (manner : Manner) : List FormatPiece → Printing → Printing
  | [], p => p
  | piece :: rest, p =>
    if p.stopped then p
    else match piece with
      | .text text => printPieces manner rest (p.write text)
      | .ends => { p with stopped := true }
      | .directive d => printPieces manner rest (printDirective manner d p)
      | .invalid text =>
        let message := match manner with
          | .full => "`" ++ text ++ "': invalid format character"
          | .plain => text ++ ": invalid directive"
          | .tool => text ++ ": invalid conversion specification"
        { p.report message with stopped := true, badFormat := true }
      | .cutOff text =>
        let message := match manner with
          | .full => "`" ++ text ++ "': missing format character"
          | .plain => "missing format character"
          | .tool => text ++ ": invalid conversion specification"
        { p.report message with stopped := true, badFormat := true }

/-- Uses a format as long as arguments are left, at most so many times. -/
def printRepeatedly (manner : Manner) (pieces : List FormatPiece) : Nat → Printing → Printing
  | 0, p => p
  | n + 1, p =>
    let before := p.arguments.length
    let p := printPieces manner pieces p
    if p.stopped ∨ p.arguments.isEmpty ∨ p.arguments.length = before then p
    else printRepeatedly manner pieces n p

/-- What is written for a format and arguments. -/
def printFormat (manner : Manner) (format : String) (arguments : List String) : Printing :=
  let pieces := formatPieces manner (format.length + 1) [] format.toList
  printRepeatedly manner pieces (arguments.length + 1) { arguments }

/-- All that has been written. -/
def Printing.text (p : Printing) : String := String.join p.written.reverse

end Overseer.Tools
