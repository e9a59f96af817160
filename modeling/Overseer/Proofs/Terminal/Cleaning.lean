import Mathlib.Data.String.Basic
import Overseer.Proofs.Text.Trimming
import Overseer.Terminal.Clean

/-!
# Cleaned text, line by line

`clean` writes as it reads.  Here it is given as a list: `cleanedLines` cleans each line for itself and
puts a newline behind it, and `toList_clean` says that the cleaned text is that list, trimmed.  Lines
do not see each other, so a text that is cut behind a newline may be cleaned in two parts
(`cleanedLines_append`).

Two consequences are used wherever a text was put together out of lines: a newline at the end does not
show (`clean_push_newline`), and a last line leaves the cleaned text as it was exactly when nothing of
it shows (`clean_append_eq_iff`).

Cleaning adds nothing: although a newline is written behind every line, the cleaned text is a selection
of the characters of the text, in their order (`clean_sublist`), and so never the longer one.
-/

namespace Overseer.Terminal

open Overseer.Text

/-- What stays of a line. -/
def shown (line : List Char) : List Char := visible (dropReturn line)

/-- What stays of each line of a text, with a newline behind every line. -/
def cleanedLines (raw : List Char) : List Char :=
  (raw.splitOn '\n').flatMap fun line => shown line ++ ['\n']

theorem toList_pushLine (out : String) (line : List Char) :
    (pushLine out line).toList = out.toList ++ (shown line ++ ['\n']) := by
  simp [pushLine, toList_pushVisible, shown]

theorem toList_foldl_pushLine (out : String) (lines : List (List Char)) :
    (lines.foldl pushLine out).toList =
      out.toList ++ lines.flatMap fun line => shown line ++ ['\n'] := by
  induction lines generalizing out with
  | nil => simp
  | cons line rest ih =>
      rw [List.foldl_cons, ih, toList_pushLine]
      simp

/-- **The cleaned text as a list**: the cleaned lines, trimmed. -/
theorem toList_clean (raw : String) :
    (clean raw).toList = trimEndChars (cleanedLines raw.toList) := by
  simp [clean, toList_foldl_pushLine, cleanedLines]

@[simp] theorem cleanedLines_nil : cleanedLines [] = ['\n'] := by
  simp [cleanedLines, shown, dropReturn, visible]

/-- A text may be cleaned in two parts if it is cut at a newline. -/
theorem cleanedLines_append (a b : List Char) :
    cleanedLines (a ++ '\n' :: b) = cleanedLines a ++ cleanedLines b := by
  simp [cleanedLines, List.splitOn_append_cons_self]

theorem clean_eq_empty_iff {raw : String} :
    clean raw = "" ↔ trimEndChars (cleanedLines raw.toList) = [] := by
  rw [← String.toList_inj, toList_clean, String.toList_empty]

@[simp] theorem clean_empty : clean "" = "" := by
  rw [clean_eq_empty_iff, String.toList_empty, cleanedLines_nil]
  rfl

/-- A newline at the end of a text does not show. -/
theorem clean_push_newline (raw : String) : clean (raw.push '\n') = clean raw := by
  rw [← String.toList_inj, toList_clean, toList_clean, String.toList_push, cleanedLines_append]
  refine trimEndChars_append_of_blank _ ?_
  simp
  rfl

/-- **A last line shows exactly when it is not cleaned away**: without that line, the text behind
which it stands is cleaned to the same. -/
theorem clean_append_eq_iff (front last : String) :
    clean (front.push '\n' ++ last) = clean front ↔ clean last = "" := by
  rw [← String.toList_inj, toList_clean, toList_clean, clean_eq_empty_iff]
  have cut : (front.push '\n' ++ last).toList = front.toList ++ '\n' :: last.toList := by simp
  rw [cut, cleanedLines_append]
  exact trimEndChars_append_eq_iff

/-! ## Cleaning adds nothing -/

theorem skipControl_suffix (cs : List Char) : skipControl cs <:+ cs :=
  (List.tail_suffix _).trans (List.dropWhile_suffix _)

theorem skipTitle_suffix (cs : List Char) : skipTitle cs <:+ cs := by
  fun_induction skipTitle cs with
  | case1 => exact List.suffix_rfl
  | case2 rest => exact List.suffix_cons _ rest
  | case3 rest => exact (List.suffix_cons _ rest).trans (List.suffix_cons _ _)
  | case4 rest => exact List.suffix_cons _ rest
  | case5 c rest _ _ ih => exact ih.trans (List.suffix_cons c rest)

/-- What is left behind an escape sequence is the end of the line. -/
theorem skipEscape_suffix (cs : List Char) : skipEscape cs <:+ cs := by
  unfold skipEscape
  split
  · exact List.suffix_rfl
  · exact (skipControl_suffix _).trans (List.suffix_cons _ _)
  · exact (skipTitle_suffix _).trans (List.suffix_cons _ _)
  · exact List.suffix_cons _ _

theorem visible_sublist (cs : List Char) : (visible cs).Sublist cs := by
  fun_induction visible cs with
  | case1 => exact List.Sublist.slnil
  | case2 rest ih => exact (ih.trans (skipEscape_suffix rest).sublist).cons _
  | case3 rest _ ih => exact ih.cons_cons _
  | case4 c rest _ _ _ ih => exact ih.cons c
  | case5 c rest _ _ _ ih => exact ih.cons_cons c

theorem dropReturn_prefix_self (line : List Char) : dropReturn line <+: line := by
  unfold dropReturn
  split
  · exact List.dropLast_prefix line
  · exact List.prefix_rfl

/-- What stays of a line is a selection of its characters. -/
theorem shown_sublist (line : List Char) : (shown line).Sublist line :=
  (visible_sublist _).trans (dropReturn_prefix_self line).sublist

/-- The lines of a text, each with a newline behind it, are the text with a newline behind it. -/
theorem flatMap_splitOn (raw : List Char) :
    ((raw.splitOn '\n').flatMap fun line => line ++ ['\n']) = raw ++ ['\n'] := by
  have joined : ∀ lines : List (List Char), lines ≠ [] →
      (lines.flatMap fun line => line ++ ['\n']) = ['\n'].intercalate lines ++ ['\n'] := by
    intro lines inhabited
    induction lines with
    | nil => exact absurd rfl inhabited
    | cons line rest ih =>
        cases rest with
        | nil => simp
        | cons next more =>
            rw [List.flatMap_cons, ih (List.cons_ne_nil next more)]
            simp
  rw [joined _ (List.splitOn_ne_nil _ _), List.intercalate_splitOn]

theorem cleanedLines_sublist (raw : List Char) : (cleanedLines raw).Sublist (raw ++ ['\n']) := by
  rw [← flatMap_splitOn raw, cleanedLines]
  induction raw.splitOn '\n' with
  | nil => exact List.Sublist.slnil
  | cons line rest ih =>
      rw [List.flatMap_cons, List.flatMap_cons]
      exact ((shown_sublist line).append (List.Sublist.refl _)).append ih

/-- The last of the cleaned lines has a newline behind it, too. -/
theorem exists_cleanedLines_eq (raw : List Char) : ∃ front, cleanedLines raw = front ++ ['\n'] := by
  rcases List.eq_nil_or_concat' (raw.splitOn '\n') with none | ⟨lines, last, cut⟩
  · exact absurd none (List.splitOn_ne_nil _ _)
  · rw [cleanedLines, cut, List.flatMap_append, List.flatMap_singleton, ← List.append_assoc]
    exact ⟨_, rfl⟩

/-- **Cleaning adds nothing.**  The cleaned text is a selection of the characters of the text. -/
theorem clean_sublist (raw : String) : (clean raw).toList.Sublist raw.toList := by
  obtain ⟨front, ends⟩ := exists_cleanedLines_eq raw.toList
  have few : front.Sublist raw.toList := by
    have all := cleanedLines_sublist raw.toList
    rw [ends] at all
    exact (List.append_sublist_append_right _).mp all
  -- The one newline too many is the last character, so it is trimmed away.
  rw [toList_clean, ends, trimEndChars_append_of_blank front (by simp; rfl)]
  exact (trimEndChars_prefix_self front).sublist.trans few

theorem utf8ByteSize_clean_le (raw : String) : (clean raw).utf8ByteSize ≤ raw.utf8ByteSize := by
  rw [← String.utf8Len_toList, ← String.utf8Len_toList]
  exact String.utf8Len_le_of_sublist (clean_sublist raw)

end Overseer.Terminal
