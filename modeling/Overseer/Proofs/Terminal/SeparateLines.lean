import Overseer.Proofs.Terminal.Scanning

/-!
# Lines of a cleaned text

A newline ends every escape sequence, so what stays of a line does not depend on the other lines.  Only
the blank characters at the end of the whole text are trimmed across lines.  `untrimmed` is what stays of
a text before that.

`clean_append_newline` is the law for a text that is cut at any of its newlines: the first part goes into
the cleaned text as it stays, and the second as it is cleaned alone; or nothing of the second part shows,
and the first one is cleaned as if it were the whole text.  `exists_linesOf_clean` is the law for all
newlines at once: some first lines of the text are the lines of the cleaned text, in their places, the
last of them trimmed, and the lines behind them are cleaned away.
-/

namespace Overseer.Text

/-- The lines of a text, without the newlines between them. -/
def linesOf (s : String) : List String := (s.toList.splitOn '\n').map .ofList

/-- A text of lines is the first one, a newline and the text of the others. -/
theorem intercalate_lines (line next : List Char) (more : List (List Char)) :
    ['\n'].intercalate (line :: next :: more) =
      line ++ '\n' :: ['\n'].intercalate (next :: more) := by
  rw [List.intercalate_cons_cons, List.append_assoc, List.singleton_append]

/-- Trimming reaches over a newline only if the text behind it is blank. -/
theorem trimEndChars_append_newline (a b : List Char) :
    trimEndChars (a ++ '\n' :: b) =
      if trimEndChars b = [] then trimEndChars a else a ++ '\n' :: trimEndChars b := by
  split
  · next gone =>
    refine trimEndChars_append_of_blank a (List.forall_mem_cons.mpr ⟨rfl, ?_⟩)
    exact trimEndChars_eq_nil_iff.mp gone
  · next stays =>
    have cut : a ++ '\n' :: b = (a ++ ['\n']) ++ b := by simp
    rw [cut, trimEndChars_append_of_not_blank _ stays]
    simp

/-- Trimming a text of lines leaves nothing exactly if it leaves nothing of each of them. -/
theorem trimEndChars_intercalate_eq_nil_iff {lines : List (List Char)} :
    trimEndChars (['\n'].intercalate lines) = [] ↔ ∀ line ∈ lines, trimEndChars line = [] := by
  induction lines with
  | nil => simp
  | cons line rest ih =>
      cases rest with
      | nil => simp
      | cons next more =>
          rw [List.forall_mem_cons, ← ih, intercalate_lines, trimEndChars_append_newline]
          split
          · next gone => simp [gone]
          · next stays => simp [stays]

/-- **Trimming leaves the lines of a text in their places**: it takes away the blank lines at the end, and
trims the last of the others. -/
theorem exists_splitOn_trimEndChars {lines : List (List Char)} (inhabited : lines ≠ [])
    (clear : ∀ line ∈ lines, '\n' ∉ line) :
    ∃ front last behind, lines = front ++ last :: behind ∧
      (trimEndChars (['\n'].intercalate lines)).splitOn '\n' = front ++ [trimEndChars last] ∧
      ∀ line ∈ behind, trimEndChars line = [] := by
  induction lines with
  | nil => exact absurd rfl inhabited
  | cons line rest ih =>
      obtain ⟨here, later⟩ := List.forall_mem_cons.mp clear
      have alone : (trimEndChars line).splitOn '\n' = [trimEndChars line] := by
        apply List.splitOn_eq_singleton
        intro found
        exact here ((trimEndChars_prefix_self line).subset found)
      -- A line with no other line behind it has no newline behind it, either.
      cases rest with
      | nil => exact ⟨[], line, [], rfl, by simpa using alone, by simp⟩
      | cons next more =>
          rw [intercalate_lines, trimEndChars_append_newline]
          split
          · next gone =>
            -- Nothing is left of the lines behind this one, which is the last that shows.
            have blank := trimEndChars_intercalate_eq_nil_iff.mp gone
            exact ⟨[], line, next :: more, rfl, alone, blank⟩
          · -- This line stays as it is, and trimming goes on among those behind it.
            obtain ⟨front, last, behind, cut, split, blank⟩ := ih (List.cons_ne_nil next more) later
            refine ⟨line :: front, last, behind, by rw [cut]; rfl, ?_, blank⟩
            rw [List.splitOn_append_cons_self, List.splitOn_eq_singleton here, split]
            rfl

end Overseer.Text

namespace Overseer.Terminal

open Overseer.Text

/-- What stays of a text before it is trimmed at its end. -/
def untrimmed (raw : String) : String := .ofList (scan .plain raw.toList)

@[simp] theorem toList_untrimmed (raw : String) :
    (untrimmed raw).toList = scan .plain raw.toList := by
  simp [untrimmed]

theorem clean_eq_trimEnd_untrimmed (raw : String) : clean raw = trimEnd (untrimmed raw) := by
  rw [← String.toList_inj, toList_clean_eq_scan, toList_trimEnd, toList_untrimmed]

/-- What stays of a text is what stays of its lines. -/
theorem scan_intercalate (lines : List (List Char)) :
    scan .plain (['\n'].intercalate lines) = ['\n'].intercalate (lines.map (scan .plain)) := by
  induction lines with
  | nil => rfl
  | cons line rest ih =>
      cases rest with
      | nil => simp
      | cons next more =>
          rw [List.map_cons, List.map_cons, intercalate_lines, intercalate_lines, ← List.map_cons,
            ← ih, scan_append_newline]

/-- A line stays a line: no newline is written in it. -/
theorem newline_notMem_scan {line : List Char} (clear : '\n' ∉ line) : '\n' ∉ scan .plain line := by
  rw [scan_eq_shown clear]
  intro found
  exact clear ((shown_sublist line).subset found)

theorem clean_eq_empty_iff_scan {raw : String} :
    clean raw = "" ↔ trimEndChars (scan .plain raw.toList) = [] := by
  rw [← String.toList_inj, toList_clean_eq_scan, String.toList_empty]

/-- A text that is cut at a newline is cleaned in two parts, of which the first is not trimmed unless
nothing shows of the second. -/
theorem clean_append_newline (a b : String) :
    clean (a ++ "\n" ++ b) =
      if clean b = "" then clean a else untrimmed a ++ "\n" ++ clean b := by
  have cut : (a ++ "\n" ++ b).toList = a.toList ++ '\n' :: b.toList := by simp
  rw [← String.toList_inj, toList_clean_eq_scan, cut, scan_append_newline,
    trimEndChars_append_newline]
  by_cases gone : clean b = ""
  · rw [if_pos gone, if_pos (clean_eq_empty_iff_scan.mp gone), toList_clean_eq_scan]
  · rw [if_neg gone, if_neg (mt clean_eq_empty_iff_scan.mpr gone)]
    simp [toList_clean_eq_scan]

/-- The lines of a cleaned text are what stays of the first lines of the text, and the last of them is
trimmed. -/
theorem exists_linesOf_clean (raw : String) :
    ∃ front last behind, linesOf raw = front ++ last :: behind ∧
      linesOf (clean raw) = front.map untrimmed ++ [clean last] ∧
      ∀ line ∈ behind, clean line = "" := by
  have whole : scan .plain raw.toList =
      ['\n'].intercalate ((raw.toList.splitOn '\n').map (scan .plain)) := by
    rw [← scan_intercalate, List.intercalate_splitOn]
  have inhabited : (raw.toList.splitOn '\n').map (scan .plain) ≠ [] := by
    simp [List.splitOn_ne_nil]
  have clear : ∀ line ∈ (raw.toList.splitOn '\n').map (scan .plain), '\n' ∉ line := by
    rw [List.forall_mem_map]
    intro line among
    exact newline_notMem_scan (not_mem_of_mem_splitOn among)
  -- What is trimmed are the scanned lines; each of them is the scan of one line of the text.
  obtain ⟨front', last', behind', cut, split, blank⟩ := exists_splitOn_trimEndChars inhabited clear
  obtain ⟨front, rest, lines, rfl, cutRest⟩ := List.map_eq_append_iff.mp cut
  obtain ⟨last, behind, rfl, rfl, rfl⟩ := List.map_eq_cons_iff.mp cutRest
  refine ⟨front.map .ofList, .ofList last, behind.map .ofList, ?_, ?_, ?_⟩
  · rw [linesOf, lines, List.map_append, List.map_cons]
  · rw [linesOf, toList_clean_eq_scan, whole, split]
    simp [untrimmed, clean_eq_trimEnd_untrimmed, trimEnd]
  · rw [List.forall_mem_map]
    intro line among
    rw [clean_eq_empty_iff_scan, String.toList_ofList]
    exact blank _ (List.mem_map_of_mem among)

/-- Whatever stands in front of a newline, the text behind it is cleaned as it is alone. -/
theorem clean_suffix_append (a b : String) :
    (clean b).toList <:+ (clean (a ++ "\n" ++ b)).toList := by
  rw [clean_append_newline]
  split
  · next gone =>
    rw [gone, String.toList_empty]
    exact List.nil_suffix
  · rw [String.toList_append]
    exact List.suffix_append _ _

/-- **A line cannot damage another line.**  The text behind a newline is cleaned as it is alone, whatever
the text in front of it leaves open.  Of the text in front all that shows is kept, `untrimmed`; only if
nothing shows behind the newline, it is cleaned as it is alone, and that is to trim what shows of it.

So each line of a cleaned text comes from the line of the text that has the same number.  The lines of
the text without one are cleaned away, and they are the last ones. -/
theorem clean_keeps_lines_apart :
    (∀ a b, clean (a ++ "\n" ++ b) =
      if clean b = "" then clean a else untrimmed a ++ "\n" ++ clean b) ∧
    (∀ a, clean a = trimEnd (untrimmed a)) ∧
    (∀ a b, (clean b).toList <:+ (clean (a ++ "\n" ++ b)).toList) ∧
    ∀ raw, ∃ front last behind, linesOf raw = front ++ last :: behind ∧
      linesOf (clean raw) = front.map untrimmed ++ [clean last] ∧
      ∀ line ∈ behind, clean line = "" :=
  ⟨clean_append_newline, clean_eq_trimEnd_untrimmed, clean_suffix_append, exists_linesOf_clean⟩

/-- A title that is left open takes the rest of its line and nothing of the next one. -/
example : clean "a\x1b]title\n  b\n\t" = "a\n  b" := by cbv

end Overseer.Terminal
