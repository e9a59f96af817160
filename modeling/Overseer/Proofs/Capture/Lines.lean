import Overseer.Capture.Buffer
import Overseer.Capture.LineReader
import Overseer.Proofs.Text.Decoding

/-!
# The lines of a stream

A reader turns bytes into lines as they arrive.  Here the lines are said of the bytes as a whole:
`wholeLines` are the lines that end in a newline and `openLine` is what stands behind the last one.
A reader that has read some bytes holds their open line and has handed out the texts of their whole
lines, however the bytes came (`LineReader.lines_feed`, `LineReader.unfinished_feed`); the end of the
stream adds the open line, unless it is empty (`textsToEnd`).

Nothing is lost on the way: written one behind the other, each with a newline, the texts of the whole
lines are the text of the bytes up to the last newline (`decodeBytes_eq_unlines`), because decoding
commutes with cutting at a newline.  A buffer of lines holds just that, as long as it all fits
(`toList_foldl_appendLine`).

All of this goes by one induction over the lines of a stream, `line_induction`.
-/

namespace Overseer.Capture

open Overseer.Text

/-! ## Whole lines and the open line -/

/-- The lines that end in a newline, without it. -/
def wholeLines (bytes : List UInt8) : List (List UInt8) := (bytes.splitOn newline).dropLast

/-- What stands behind the last newline. -/
def openLine (bytes : List UInt8) : List UInt8 := (bytes.splitOn newline).getLastD []

/-- Bytes up to their last newline, which is kept. -/
def wholePart (bytes : List UInt8) : List UInt8 :=
  (wholeLines bytes).flatMap (· ++ [newline])

/-- A stream is an open line, or a line with its newline and a stream behind it. -/
theorem line_induction {motive : List UInt8 → Prop}
    (unended : ∀ line, newline ∉ line → motive line)
    (ended : ∀ line rest, newline ∉ line → motive rest → motive (line ++ newline :: rest))
    (bytes : List UInt8) : motive bytes := by
  induction size : bytes.length using Nat.strongRecOn generalizing bytes with
  | ind n ih =>
      by_cases found : newline ∈ bytes
      · obtain ⟨line, rest, rfl, first⟩ := List.eq_append_cons_of_mem found
        have shorter : rest.length < n := by
          rw [← size, List.length_append, List.length_cons]
          omega
        exact ended line rest first (ih rest.length shorter rest rfl)
      · exact unended bytes found

theorem wholeLines_of_notMem {line : List UInt8} (unended : newline ∉ line) :
    wholeLines line = [] := by
  simp [wholeLines, List.splitOn_eq_singleton unended]

theorem openLine_of_notMem {line : List UInt8} (unended : newline ∉ line) :
    openLine line = line := by
  simp [openLine, List.splitOn_eq_singleton unended]

theorem wholeLines_append_newline {line : List UInt8} (first : newline ∉ line)
    (rest : List UInt8) : wholeLines (line ++ newline :: rest) = line :: wholeLines rest := by
  have more : rest.splitOn newline ≠ [] := List.splitOn_ne_nil _ _
  simp [wholeLines, List.splitOn_append_cons_self, List.splitOn_eq_singleton first,
    List.dropLast_cons_of_ne_nil more]

theorem openLine_append_newline {line : List UInt8} (first : newline ∉ line)
    (rest : List UInt8) : openLine (line ++ newline :: rest) = openLine rest := by
  have more : rest.splitOn newline ≠ [] := List.splitOn_ne_nil _ _
  simp [openLine, List.splitOn_append_cons_self, List.splitOn_eq_singleton first,
    List.getLastD_eq_getLast?, List.getLast?_cons, List.getLast?_eq_some_getLast more]

theorem newline_notMem_openLine (bytes : List UInt8) : newline ∉ openLine bytes := by
  induction bytes using line_induction with
  | unended line none => rwa [openLine_of_notMem none]
  | ended line rest first ih => rwa [openLine_append_newline first]

theorem wholePart_append_newline {line : List UInt8} (first : newline ∉ line)
    (rest : List UInt8) :
    wholePart (line ++ newline :: rest) = line ++ newline :: wholePart rest := by
  simp [wholePart, wholeLines_append_newline first]

/-- The whole lines and the open line are the whole stream. -/
theorem wholePart_append_openLine (bytes : List UInt8) :
    wholePart bytes ++ openLine bytes = bytes := by
  induction bytes using line_induction with
  | unended line none => simp [wholePart, wholeLines_of_notMem none, openLine_of_notMem none]
  | ended line rest first ih =>
      rw [wholePart_append_newline first, openLine_append_newline first, List.append_assoc,
        List.cons_append, ih]

/-- The whole part of a stream has no open line. -/
theorem openLine_wholePart (bytes : List UInt8) : openLine (wholePart bytes) = [] := by
  induction bytes using line_induction with
  | unended line none =>
      rw [wholePart, wholeLines_of_notMem none, List.flatMap_nil, openLine_of_notMem (by simp)]
  | ended line rest first ih =>
      rw [wholePart_append_newline first, openLine_append_newline first, ih]

theorem wholeLines_wholePart (bytes : List UInt8) :
    wholeLines (wholePart bytes) = wholeLines bytes := by
  induction bytes using line_induction with
  | unended line none => rw [wholePart, wholeLines_of_notMem none, List.flatMap_nil]; rfl
  | ended line rest first ih =>
      rw [wholePart_append_newline first, wholeLines_append_newline first,
        wholeLines_append_newline first, ih]

/-- The whole part of a stream is empty or ends in a newline. -/
theorem wholePart_eq (bytes : List UInt8) :
    wholePart bytes = [] ∨ ∃ front, wholePart bytes = front ++ [newline] := by
  induction bytes using line_induction with
  | unended line none =>
      refine Or.inl ?_
      rw [wholePart, wholeLines_of_notMem none, List.flatMap_nil]
  | ended line rest first ih =>
      refine Or.inr ?_
      rw [wholePart_append_newline first]
      rcases ih with empty | ⟨front, ends⟩
      · exact ⟨line, by rw [empty]⟩
      · exact ⟨line ++ newline :: front, by simp [ends]⟩

/-- What comes later continues the open line. -/
theorem wholeLines_append (a b : List UInt8) :
    wholeLines (a ++ b) = wholeLines a ++ wholeLines (openLine a ++ b) := by
  induction a using line_induction with
  | unended line none => simp [wholeLines_of_notMem none, openLine_of_notMem none]
  | ended line rest first ih =>
      rw [List.append_assoc, List.cons_append, wholeLines_append_newline first,
        wholeLines_append_newline first, openLine_append_newline first, ih, List.cons_append]

theorem openLine_append (a b : List UInt8) : openLine (a ++ b) = openLine (openLine a ++ b) := by
  induction a using line_induction with
  | unended line none => rw [openLine_of_notMem none]
  | ended line rest first ih =>
      rw [List.append_assoc, List.cons_append, openLine_append_newline first,
        openLine_append_newline first, ih]

/-! ## The texts of lines -/

/-- The text of a list of bytes. -/
def textOf (bytes : List UInt8) : String := decode bytes.toByteArray

@[simp] theorem toList_textOf (bytes : List UInt8) :
    (textOf bytes).toList = decodeBytes bytes := by
  rw [textOf, toList_decode, List.toList_data_toByteArray]

theorem decode_eq_textOf (bytes : ByteArray) : decode bytes = textOf bytes.data.toList := by
  rw [← String.toList_inj, toList_decode, toList_textOf]

@[simp] theorem textOf_nil : textOf [] = "" := rfl

/-- A newline among bytes is a newline of their text, whatever stands before it.  So it makes no
difference whether a line is decoded with its newline or without it. -/
theorem textOf_append_newline (line rest : List UInt8) :
    textOf (line ++ newline :: rest) = (textOf line).push '\n' ++ textOf rest := by
  have here : Char.ofNat newline.toNat = '\n' := rfl
  rw [← String.toList_inj, toList_textOf, decodeBytes_append_ascii line (by decide), here]
  simp

/-- The texts of the whole lines. -/
def texts (bytes : List UInt8) : List String := (wholeLines bytes).map textOf

/-- The texts of all lines of a stream that ends here: the open line counts unless it is empty. -/
def textsToEnd (bytes : List UInt8) : List String :=
  texts bytes ++ if openLine bytes = [] then [] else [textOf (openLine bytes)]

theorem texts_of_notMem {line : List UInt8} (unended : newline ∉ line) : texts line = [] := by
  simp [texts, wholeLines_of_notMem unended]

theorem texts_append (a b : List UInt8) : texts (a ++ b) = texts a ++ texts (openLine a ++ b) := by
  rw [texts, wholeLines_append, List.map_append, texts, texts]

theorem textsToEnd_append (a b : List UInt8) :
    textsToEnd (a ++ b) = texts a ++ textsToEnd (openLine a ++ b) := by
  rw [textsToEnd, texts_append, openLine_append, textsToEnd, List.append_assoc]

theorem textsToEnd_of_notMem {line : List UInt8} (unended : newline ∉ line) :
    textsToEnd line = if line = [] then [] else [textOf line] := by
  simp [textsToEnd, texts_of_notMem unended, openLine_of_notMem unended]

theorem textsToEnd_append_newline {line : List UInt8} (first : newline ∉ line)
    (rest : List UInt8) :
    textsToEnd (line ++ newline :: rest) = textOf line :: textsToEnd rest := by
  simp [textsToEnd, texts, wholeLines_append_newline first, openLine_append_newline first]

theorem textsToEnd_wholePart (bytes : List UInt8) : textsToEnd (wholePart bytes) = texts bytes := by
  rw [textsToEnd, if_pos (openLine_wholePart bytes), List.append_nil, texts,
    wholeLines_wholePart, texts]

/-- The text of a line has no newline in it, since only a newline is decoded to one. -/
theorem newline_notMem_of_mem_textsToEnd {bytes : List UInt8} {text : String}
    (member : text ∈ textsToEnd bytes) : '\n' ∉ text.toList := by
  induction bytes using line_induction with
  | unended line none =>
      rw [textsToEnd_of_notMem none] at member
      by_cases empty : line = []
      · rw [if_pos empty] at member
        exact absurd member List.not_mem_nil
      · rw [if_neg empty, List.mem_singleton] at member
        rw [member, toList_textOf]
        exact newline_notMem_decodeBytes none
  | ended line rest first ih =>
      rw [textsToEnd_append_newline first] at member
      rcases List.mem_cons.mp member with here | later
      · rw [here, toList_textOf]
        exact newline_notMem_decodeBytes first
      · exact ih later

/-- Some first lines of a stream are all lines of a first part of it, and this part is cut behind a
newline or nowhere. -/
theorem exists_prefix_of_prefix_textsToEnd {few : List String} {bytes : List UInt8}
    (first : few <+: textsToEnd bytes) :
    ∃ part, part <+: bytes ∧ textsToEnd part = few ∧ (openLine part = [] ∨ part = bytes) := by
  induction bytes using line_induction generalizing few with
  | unended line none =>
      cases few with
      | nil => exact ⟨[], List.nil_prefix, rfl, Or.inl rfl⟩
      | cons text more =>
          refine ⟨line, List.prefix_rfl, ?_, Or.inr rfl⟩
          rw [textsToEnd_of_notMem none] at first ⊢
          by_cases empty : line = []
          · simp [empty] at first
          · rw [if_neg empty] at first ⊢
            obtain ⟨rfl, rfl⟩ : text = textOf line ∧ more = [] := by
              simpa [List.cons_prefix_cons] using first
            rfl
  | ended line rest start ih =>
      cases few with
      | nil => exact ⟨[], List.nil_prefix, rfl, Or.inl rfl⟩
      | cons text more =>
          rw [textsToEnd_append_newline start, List.cons_prefix_cons] at first
          obtain ⟨rfl, later⟩ := first
          obtain ⟨part, front, lines, cut⟩ := ih later
          refine ⟨line ++ newline :: part, ?_, ?_, ?_⟩
          · exact (List.prefix_append_right_inj _).mpr (List.cons_prefix_cons.mpr ⟨rfl, front⟩)
          · rw [textsToEnd_append_newline start, lines]
          · rw [openLine_append_newline start]
            exact cut.imp_right fun whole => by rw [whole]

/-- The texts of the lines of a stream that may have ended. -/
def textsSoFar (ended : Bool) (bytes : List UInt8) : List String :=
  if ended then textsToEnd bytes else texts bytes

theorem textsSoFar_prefix_textsToEnd (ended : Bool) (bytes : List UInt8) :
    textsSoFar ended bytes <+: textsToEnd bytes := by
  cases ended with
  | false => exact List.prefix_append _ _
  | true => exact List.prefix_rfl

theorem textsSoFar_append (ended : Bool) (a b : List UInt8) :
    textsSoFar ended (a ++ b) = texts a ++ textsSoFar ended (openLine a ++ b) := by
  cases ended with
  | false => exact texts_append a b
  | true => exact textsToEnd_append a b

/-- Lines written one behind the other, each with its newline. -/
def unlines (lines : List String) : List Char := lines.flatMap fun line => line.toList ++ ['\n']

theorem unlines_append (a b : List String) : unlines (a ++ b) = unlines a ++ unlines b := by
  simp [unlines]

/-- Lines written so can be read back, if there is no newline in any of them. -/
theorem splitOn_unlines {lines : List String} (clear : ∀ line ∈ lines, '\n' ∉ line.toList) :
    (unlines lines).splitOn '\n' = lines.map (·.toList) ++ [[]] := by
  induction lines with
  | nil => rfl
  | cons line rest ih =>
      have here : unlines (line :: rest) = line.toList ++ '\n' :: unlines rest := by simp [unlines]
      rw [here, List.splitOn_append_cons_self,
        List.splitOn_eq_singleton (clear line List.mem_cons_self),
        ih fun later member => clear later (List.mem_cons_of_mem line member)]
      rfl

/-- **Decoding line by line is decoding at once.** -/
theorem decodeBytes_eq_unlines (bytes : List UInt8) :
    decodeBytes bytes = unlines (texts bytes) ++ decodeBytes (openLine bytes) := by
  induction bytes using line_induction with
  | unended line none =>
      simp [texts_of_notMem none, openLine_of_notMem none, unlines]
  | ended line rest first ih =>
      have here : Char.ofNat newline.toNat = '\n' := rfl
      rw [decodeBytes_append_ascii line (by decide), here, texts, wholeLines_append_newline first,
        openLine_append_newline first, ih]
      simp [unlines, texts]

/-! ## The reader -/

namespace LineReader

/-- The bytes of the unfinished line. -/
def unfinished (r : LineReader) : List UInt8 := r.pending.data.toList

theorem push_newline (r : LineReader) :
    push (r, #[]) newline = ({}, #[decode r.pending]) := rfl

theorem push_of_ne (r : LineReader) {b : UInt8} (other : b ≠ newline) :
    push (r, #[]) b = (⟨r.pending.push b⟩, #[]) := if_neg other

/-- The state and the lines that a reader comes to, byte by byte, said of all bytes at once. -/
theorem foldl_push_eq_texts (bytes : List UInt8) (r : LineReader) (clear : newline ∉ r.unfinished) :
    (bytes.foldl push (r, #[])).1.unfinished = openLine (r.unfinished ++ bytes) ∧
      (bytes.foldl push (r, #[])).2.toList = texts (r.unfinished ++ bytes) := by
  induction bytes generalizing r with
  | nil => simp [openLine_of_notMem clear, texts_of_notMem clear]
  | cons b rest ih =>
      rw [List.foldl_cons]
      by_cases ends : b = newline
      · -- The line is handed out and the reader starts afresh.
        subst ends
        have fresh : newline ∉ unfinished {} := by simp [unfinished]
        obtain ⟨state, lines⟩ := ih {} fresh
        rw [push_newline, foldl_push_eq]
        refine ⟨?_, ?_⟩
        · rw [state, openLine_append_newline clear]
          rfl
        · rw [Array.toList_append, lines, texts, texts, wholeLines_append_newline clear]
          simp [decode_eq_textOf, unfinished]
      · -- The byte joins the unfinished line, which has no newline still.
        have longer : unfinished ⟨r.pending.push b⟩ = r.unfinished ++ [b] := by
          simp [unfinished]
        have still : newline ∉ unfinished ⟨r.pending.push b⟩ := by
          rw [longer, List.mem_append, List.mem_singleton]
          exact fun found => found.elim clear fun here => ends here.symm
        rw [push_of_ne r ends]
        simpa [longer] using ih _ still

theorem unfinished_feed (r : LineReader) (bytes : ByteArray) (clear : newline ∉ r.unfinished) :
    (r.feed bytes).1.unfinished = openLine (r.unfinished ++ bytes.data.toList) := by
  rw [feed, ← Array.foldl_toList]
  exact (foldl_push_eq_texts bytes.data.toList r clear).1

/-- **A reader hands out the texts of the whole lines.** -/
theorem lines_feed (r : LineReader) (bytes : ByteArray) (clear : newline ∉ r.unfinished) :
    (r.feed bytes).2 = texts (r.unfinished ++ bytes.data.toList) := by
  rw [feed, ← Array.foldl_toList]
  exact (foldl_push_eq_texts bytes.data.toList r clear).2

theorem isEmpty_pending_iff (r : LineReader) :
    r.pending.isEmpty = true ↔ r.unfinished = [] := by
  rw [ByteArray.isEmpty, beq_iff_eq, ← ByteArray.size_data, Array.size_eq_zero_iff,
    ← Array.toList_eq_nil_iff, unfinished]

/-- The end of the stream makes a line of what is unfinished, unless that is empty. -/
theorem finish_eq (r : LineReader) (clear : newline ∉ r.unfinished) :
    r.finish = textsToEnd r.unfinished := by
  rw [textsToEnd_of_notMem clear, finish]
  by_cases empty : r.unfinished = []
  · rw [if_pos empty, if_pos ((isEmpty_pending_iff r).mpr empty)]
  · rw [if_neg empty, if_neg (mt (isEmpty_pending_iff r).mp empty), decode_eq_textOf,
      unfinished]

end LineReader

/-! ## The buffer -/

/-- The bytes that a buffer needs for lines, each with its newline. -/
def spaceFor : List String → Nat
  | [] => 0
  | line :: rest => line.utf8ByteSize + 1 + spaceFor rest

theorem spaceFor_append (a b : List String) : spaceFor (a ++ b) = spaceFor a + spaceFor b := by
  induction a with
  | nil => simp [spaceFor]
  | cons line rest ih =>
      rw [List.cons_append, spaceFor, spaceFor, ih]
      omega

/-- Lines that fit into a buffer all end up in it. -/
theorem toList_foldl_appendLine (lines : List String) (buffer : String)
    (fits : buffer.utf8ByteSize + spaceFor lines ≤ maxOutputBytes) :
    (lines.foldl appendLine buffer).toList = buffer.toList ++ unlines lines := by
  induction lines generalizing buffer with
  | nil => simp [unlines]
  | cons line rest ih =>
      rw [spaceFor] at fits
      have kept : appendLine buffer line = (buffer ++ line).push '\n' := if_pos (by omega)
      have size : ((buffer ++ line).push '\n').utf8ByteSize =
          buffer.utf8ByteSize + line.utf8ByteSize + 1 := by
        rw [String.utf8ByteSize_push, String.utf8ByteSize_append]
        rfl
      rw [List.foldl_cons, kept, ih _ (by omega)]
      simp [unlines]

end Overseer.Capture
