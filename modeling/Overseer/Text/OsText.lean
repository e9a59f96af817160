import Overseer.Text.Utf8

/-!
# Texts of the operating system

Program names, paths and settings are byte strings.  Most of them are UTF-8, none has to be.

## Main definitions

* `OsText` — a byte string
* `OsText.ofString` — the bytes of a text
* `OsText.toString?` — the text that the bytes are, if they are one
* `OsText.display` — the text shown for the bytes in any case
-/

namespace Overseer.Text

/-- A byte string of the operating system. -/
structure OsText where
  /-- the bytes, without an end mark -/
  bytes : ByteArray
  deriving Inhabited

/-- Two byte strings are equal when their bytes are. -/
instance : DecidableEq OsText := fun a b =>
  decidable_of_iff (a.bytes.data = b.bytes.data)
    ⟨fun h => by cases a; cases b; exact congrArg OsText.mk (ByteArray.ext h), fun h => by rw [h]⟩

namespace OsText

/-- The UTF-8 bytes of a text. -/
def ofString (s : String) : OsText := ⟨s.toUTF8⟩

/-- The text that the bytes encode, if they are UTF-8. -/
def toString? (t : OsText) : Option String := String.fromUTF8? t.bytes

/-- A text to show for the bytes, replacement characters in place of what is not text. -/
def display (t : OsText) : String := decode t.bytes

/-- A zero byte, which the operating system takes for the end of a string. -/
def hasZero (t : OsText) : Bool := t.bytes.data.contains 0

end OsText

end Overseer.Text
