/-!
# Decoding bytes that may not be text

Bytes are decoded as UTF-8 by a machine that reads one byte at a time.  A byte that no character can
continue with ends the sequence before it, and every sequence that breaks off so, or that the end of
the bytes cuts short, becomes one replacement character.  In this way each *maximal* beginning of a
well-formed sequence is replaced once and no byte of a character is lost.

## Main definitions

* `Decoder` — what the bytes so far call for: a first byte, or some continuation bytes
* `Decoder.start`, `Decoder.read` — the machine
* `decode` — the text of a byte array, replacement characters in place of what is not text
-/

namespace Overseer.Text

/-- Stands for bytes that are not text. -/
def replacement : Char := '\uFFFD'

/-- What a decoder waits for. -/
inductive Decoder where
  /-- the first byte of a character -/
  | ready
  /-- `missing + 1` more bytes of a character, the next of them between `low` and `high`; the bits
  read so far are `bits` -/
  | within (missing : Nat) (low high : UInt8) (bits : Nat)
  deriving Repr, DecidableEq, Inhabited

namespace Decoder

/-- The lowest and highest continuation byte. -/
def continuationLow : UInt8 := 0x80
@[inherit_doc continuationLow] def continuationHigh : UInt8 := 0xBF

/-- Reads a byte that begins a character: the state behind it and what is written for it.  The
ranges of the second byte keep out overlong forms, surrogates and numbers past the last code
point. -/
def start (b : UInt8) : Decoder × List Char :=
  let bits := b.toNat
  if b < 0x80 then (ready, [Char.ofNat bits])
  else if b < 0xC2 then (ready, [replacement])
  else if b < 0xE0 then (within 0 continuationLow continuationHigh (bits % 0x20), [])
  else if b = 0xE0 then (within 1 0xA0 continuationHigh (bits % 0x10), [])
  else if b = 0xED then (within 1 continuationLow 0x9F (bits % 0x10), [])
  else if b < 0xF0 then (within 1 continuationLow continuationHigh (bits % 0x10), [])
  else if b = 0xF0 then (within 2 0x90 continuationHigh (bits % 0x08), [])
  else if b < 0xF4 then (within 2 continuationLow continuationHigh (bits % 0x08), [])
  else if b = 0xF4 then (within 2 continuationLow 0x8F (bits % 0x08), [])
  else (ready, [replacement])

/-- Reads a byte: the state behind it and what is written for it. -/
def read : Decoder → UInt8 → Decoder × List Char
  | ready, b => start b
  | within missing low high bits, b =>
    if low ≤ b ∧ b ≤ high then
      let bits := bits * 0x40 + b.toNat % 0x40
      match missing with
      | 0 => (ready, [Char.ofNat bits])
      | more + 1 => (within more continuationLow continuationHigh bits, [])
    else
      let (next, out) := start b
      (next, replacement :: out)

/-- What is written when the bytes end here. -/
def finish : Decoder → List Char
  | ready => []
  | within .. => [replacement]

/-- The characters for a list of bytes, read from a given state to their end. -/
def run (d : Decoder) : List UInt8 → List Char
  | [] => d.finish
  | b :: rest => (d.read b).2 ++ run (d.read b).1 rest

end Decoder

/-- The characters for a list of bytes. -/
def decodeBytes (bytes : List UInt8) : List Char := Decoder.ready.run bytes

/-- A decoder together with the text that it has written. -/
structure Decoding where
  /-- what the next byte is read as -/
  state : Decoder
  /-- the text so far -/
  out : String

namespace Decoding

/-- Nothing read yet. -/
def empty : Decoding := ⟨.ready, ""⟩

/-- Writes characters behind the text. -/
def pushAll (out : String) (cs : List Char) : String := cs.foldl String.push out

/-- Reads a byte. -/
def push (d : Decoding) (b : UInt8) : Decoding :=
  let (next, cs) := d.state.read b
  ⟨next, pushAll d.out cs⟩

/-- The whole text when the bytes end here. -/
def text (d : Decoding) : String := pushAll d.out d.state.finish

end Decoding

/-- The text of a byte array, replacement characters in place of what is not text. -/
def decode (bytes : ByteArray) : String :=
  (bytes.data.foldl Decoding.push .empty).text

theorem Decoding.toList_pushAll (out : String) (cs : List Char) :
    (pushAll out cs).toList = out.toList ++ cs := by
  induction cs generalizing out with
  | nil => simp [pushAll]
  | cons c cs ih =>
    have := ih (out.push c)
    simp only [pushAll, List.foldl_cons] at this ⊢
    simp [this]

/-- The machine that writes as it reads says what the list of its outputs says. -/
theorem Decoding.toList_text_foldl (d : Decoding) (bytes : List UInt8) :
    (bytes.foldl push d).text.toList = d.out.toList ++ d.state.run bytes := by
  induction bytes generalizing d with
  | nil => simp [text, toList_pushAll, Decoder.run]
  | cons b rest ih => simp [ih, push, toList_pushAll, Decoder.run]

/-- The text of a byte array, as characters. -/
theorem toList_decode (bytes : ByteArray) :
    (decode bytes).toList = decodeBytes bytes.data.toList := by
  rw [decode, ← Array.foldl_toList, Decoding.toList_text_foldl]
  simp [Decoding.empty, decodeBytes]

end Overseer.Text
