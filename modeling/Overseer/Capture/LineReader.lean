import Overseer.Text.Utf8

/-!
# Reading a stream line by line

Bytes arrive in pieces of any size.  A reader keeps the bytes of the line that is not finished yet
and hands out every line, decoded and without its newline, as soon as the newline has been read.

## Main definitions

* `Stream` — the two output streams of a process
* `LineReader` — the bytes of an unfinished line
* `LineReader.feed` — reads a piece of the stream
* `LineReader.finish` — what the end of the stream makes of the unfinished line
-/

namespace Overseer

/-- The output streams of a process. -/
inductive Stream where
  | stdout | stderr
  deriving DecidableEq, Repr, Inhabited

namespace Capture

open Overseer.Text

/-- The byte that ends a line. -/
def newline : UInt8 := 10

/-- A reader of lines. -/
structure LineReader where
  /-- the bytes of the unfinished line -/
  pending : ByteArray := .empty
  deriving Inhabited

namespace LineReader

/-- Reads a byte, and notes a line that it ends behind the lines noted before. -/
def push : LineReader × Array String → UInt8 → LineReader × Array String
  | (⟨pending⟩, lines), b =>
    if b = newline then (⟨.empty⟩, lines.push (decode pending)) else (⟨pending.push b⟩, lines)

/-- Reads a piece of the stream: the reader behind it and the lines that it ends. -/
def feed (r : LineReader) (bytes : ByteArray) : LineReader × List String :=
  let (r, lines) := bytes.data.foldl push (r, #[])
  (r, lines.toList)

/-- The line that the end of the stream ends, if there is one. -/
def finish (r : LineReader) : List String :=
  if r.pending.isEmpty then [] else [decode r.pending]

/-- Lines that were noted before stay in front. -/
theorem foldl_push_eq (bytes : List UInt8) (r : LineReader) (lines : Array String) :
    bytes.foldl push (r, lines) =
      ((bytes.foldl push (r, #[])).1, lines ++ (bytes.foldl push (r, #[])).2) := by
  induction bytes generalizing r lines with
  | nil => simp
  | cons b rest ih =>
    simp only [List.foldl_cons, push]
    split
    · rw [ih, ih _ (#[].push _)]
      simp
    · exact ih _ _

@[simp] theorem feed_empty (r : LineReader) : r.feed .empty = (r, []) := rfl

/-- It does not matter how a stream is cut into pieces. -/
theorem feed_append (r : LineReader) (a b : ByteArray) :
    r.feed (a ++ b) = (((r.feed a).1.feed b).1, (r.feed a).2 ++ ((r.feed a).1.feed b).2) := by
  simp only [feed, ← Array.foldl_toList, ByteArray.data_append, Array.toList_append,
    List.foldl_append]
  rw [foldl_push_eq b.data.toList]
  simp

end LineReader

end Capture

end Overseer
