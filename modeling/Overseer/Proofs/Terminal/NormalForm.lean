import Overseer.Proofs.Terminal.Scanning

/-!
# The normal form of cleaned text

A text is `Tidy` when it has no control characters but newlines and tabs and does not end in a blank
character.  Nothing in this says how a text is cleaned, and yet it is what cleaning comes down to: a
cleaned text is tidy (`tidy_clean`), and a tidy text is cleaned already (`clean_of_tidy`).

So a text whose lines are tidy is returned as it is, with the empty lines and the blank characters
within (`tidy_intercalate`).
-/

namespace Overseer.Terminal

open Overseer.Text

/-- A text without control characters but newlines and tabs that does not end in a blank character. -/
structure Tidy (s : String) : Prop where
  plain : Plain s.toList
  stays : ∀ c ∈ s.toList.getLast?, isBlank c = false

/-- Lines without control characters but tabs, of which the last one is there and shows at its end. -/
structure TidyLines (lines : List String) : Prop where
  plain : ∀ line ∈ lines, ∀ c ∈ line.toList, isControl c = true → c = '\t'
  stays : ∃ last ∈ lines.getLast?, ∃ c ∈ last.toList.getLast?, isBlank c = false

variable {s : String} {lines : List String}

/-- **A cleaned text is tidy.** -/
theorem tidy_clean (raw : String) : Tidy (clean raw) := by
  refine ⟨fun c member => ?_, fun c last => ?_⟩
  · rw [toList_clean_eq_scan] at member
    exact plain_scan .plain raw.toList c ((trimEndChars_prefix_self _).subset member)
  · rw [toList_clean_eq_scan] at last
    exact not_blank_of_mem_getLast?_trimEndChars last

/-- **A tidy text is cleaned already.** -/
theorem clean_of_tidy (tidy : Tidy s) : clean s = s := by
  have trimmed : clean s = trimEnd s := by simpa using clean_of_plain tidy.plain
  rw [trimmed, ← String.toList_inj, toList_trimEnd, trimEndChars_eq_self tidy.stays]

/-- The last of some lines stands at the end of the text that they make. -/
theorem exists_intercalate_eq {last : String} (ends : last ∈ lines.getLast?) :
    ∃ front, ("\n".intercalate lines).toList = front ++ last.toList := by
  rw [String.toList_intercalate]
  induction lines with
  | nil => cases ends
  | cons line rest ih =>
      cases rest with
      | nil =>
          obtain rfl : line = last := by simpa using ends
          exact ⟨[], by simp⟩
      | cons next more =>
          obtain ⟨front, same⟩ := ih (by simpa using ends)
          refine ⟨line.toList ++ "\n".toList ++ front, ?_⟩
          rw [List.map_cons, List.map_cons, List.intercalate_cons_cons, ← List.map_cons, same]
          simp

/-- A character of a text that is made of lines is a newline or stands in one of them. -/
theorem newline_or_exists_of_mem_intercalate {c : Char}
    (member : c ∈ ("\n".intercalate lines).toList) : c = '\n' ∨ ∃ line ∈ lines, c ∈ line.toList := by
  rw [String.toList_intercalate] at member
  induction lines with
  | nil => simp at member
  | cons line rest ih =>
      cases rest with
      | nil => exact Or.inr ⟨line, by simp, by simpa using member⟩
      | cons next more =>
          rw [List.map_cons, List.map_cons, List.intercalate_cons_cons, ← List.map_cons] at member
          rcases List.mem_append.mp member with here | later
          · rcases List.mem_append.mp here with inside | separator
            · exact Or.inr ⟨line, List.mem_cons_self, inside⟩
            · exact Or.inl (by simpa using separator)
          · rcases ih later with newline | ⟨found, among, inside⟩
            · exact Or.inl newline
            · exact Or.inr ⟨found, List.mem_cons_of_mem line among, inside⟩

/-- Tidy lines make a tidy text. -/
theorem tidy_intercalate (tidy : TidyLines lines) : Tidy ("\n".intercalate lines) := by
  obtain ⟨last, ends, shown, lastShown, visible⟩ := tidy.stays
  refine ⟨fun c member controls => ?_, fun c atEnd => ?_⟩
  · rcases newline_or_exists_of_mem_intercalate member with newline | ⟨line, among, inside⟩
    · exact Or.inl newline
    · exact Or.inr (tidy.plain line among c inside controls)
  · obtain ⟨front, same⟩ := exists_intercalate_eq ends
    rw [same, List.getLast?_append, Option.mem_def.mp lastShown] at atEnd
    obtain rfl : shown = c := by simpa using atEnd
    exact visible

/-- **Cleaned text is exactly the normal form.**  A text is left as it is exactly if it is tidy, and
what comes out is always tidy; so cleaning twice is cleaning once, and lines that are tidy come out as
they went in. -/
theorem clean_eq_self_iff_tidy :
    (∀ s, clean s = s ↔ Tidy s) ∧ (∀ raw, Tidy (clean raw)) ∧
      (∀ raw, clean (clean raw) = clean raw) ∧
      ∀ lines, TidyLines lines → clean ("\n".intercalate lines) = "\n".intercalate lines := by
  refine ⟨fun s => ⟨fun same => ?_, clean_of_tidy⟩, tidy_clean, fun raw => ?_, fun lines tidy => ?_⟩
  · rw [← same]
    exact tidy_clean s
  · exact clean_of_tidy (tidy_clean raw)
  · exact clean_of_tidy (tidy_intercalate tidy)

/-- Three lines, of which one is empty and two hold blank characters within. -/
theorem clean_indented : TidyLines ["a\tb", "", "  c d"] ∧
    clean "a\tb\n\n  c d" = "a\tb\n\n  c d" := by
  have tidy : TidyLines ["a\tb", "", "  c d"] := ⟨by simp [isControl], "  c d", rfl, 'd', rfl, rfl⟩
  have joined : "\n".intercalate ["a\tb", "", "  c d"] = "a\tb\n\n  c d" := rfl
  refine ⟨tidy, ?_⟩
  rw [← joined]
  exact clean_eq_self_iff_tidy.2.2.2 _ tidy

end Overseer.Terminal
