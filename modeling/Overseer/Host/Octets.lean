import Overseer.Text.OsText

/-!
# Octet strings

Inside the host every text is a string of *octets*: a string whose characters are all below
`U+0100`, each of them standing for one byte.  In this way a program can look at its arguments
character by character no matter whether they are text.

## Main definitions

* `octets` — the octet string of some bytes
* `bytesOf` — the bytes of an octet string
* `octetsOfText` — the octet string of a text, by its UTF-8 bytes
-/

namespace Overseer.Host

open Overseer.Text

/-- The character that stands for a byte. -/
def octet (b : UInt8) : Char := Char.ofNat b.toNat

/-- The octet string of some bytes. -/
def octets (bytes : ByteArray) : String :=
  bytes.data.foldl (fun s b => s.push (octet b)) ""

/-- The bytes of an octet string. -/
def bytesOf (s : String) : ByteArray :=
  s.foldl (fun bytes c => bytes.push (UInt8.ofNat c.toNat)) .empty

/-- The octet string of a text, by its UTF-8 bytes. -/
def octetsOfText (s : String) : String := octets s.toUTF8

/-- The octet string of a text of the operating system. -/
def octetsOf (t : OsText) : String := octets t.bytes

/-- The text of the operating system that an octet string is. -/
def osText (s : String) : OsText := ⟨bytesOf s⟩

end Overseer.Host
