import Mathlib.Data.List.TakeWhile
import Overseer.Text.Blank

/-!
# Trimming a text

Trimming reads a text from its end, so what it does to two texts written one behind the other depends
on the second alone, unless that one is blank.  `trimEndChars_append_of_blank` and
`trimEndChars_append_of_not_blank` are the two cases, and `trimEndChars_append_eq_iff` says that only
the first of them leaves the trimmed text as it was.

Trimming takes nothing but characters off the end (`trimEndChars_prefix_self`); it leaves no blank
character there (`not_blank_of_mem_getLast?_trimEndChars`), and nothing to do where there is none
(`trimEndChars_eq_self`).  A text is blank exactly if trimming it at both ends leaves nothing
(`trim_eq_empty_iff`).

A text is padded with blank characters (`Padded`) if there are some around it and nothing else.  Every
text is its trimmed form, padded (`padded_trim`), and padding a text does not change what trimming
leaves of it (`trim_of_padded`).
-/

namespace Overseer.Text

/-- Trimming leaves nothing exactly of blank characters. -/
theorem trimEndChars_eq_nil_iff {cs : List Char} :
    trimEndChars cs = [] ↔ ∀ c ∈ cs, isBlank c = true := by
  simp [trimEndChars, List.dropWhile_eq_nil_iff]

/-- Blank characters at the end are trimmed away. -/
theorem trimEndChars_append_of_blank (a : List Char) {b : List Char}
    (blank : ∀ c ∈ b, isBlank c = true) : trimEndChars (a ++ b) = trimEndChars a := by
  have gone : b.reverse.dropWhile isBlank = [] := by
    simpa [List.dropWhile_eq_nil_iff] using blank
  simp [trimEndChars, List.dropWhile_append, gone]

/-- Trimming does not reach past a character that is not blank. -/
theorem trimEndChars_append_of_not_blank (a : List Char) {b : List Char}
    (stays : trimEndChars b ≠ []) : trimEndChars (a ++ b) = a ++ trimEndChars b := by
  have rest : b.reverse.dropWhile isBlank ≠ [] := by
    simpa [trimEndChars] using stays
  simp [trimEndChars, List.dropWhile_append, rest]

/-- Trimming takes characters off the end only. -/
theorem trimEndChars_prefix_self (cs : List Char) : trimEndChars cs <+: cs := by
  have rest : cs.reverse.dropWhile isBlank <:+ cs.reverse := List.dropWhile_suffix isBlank
  rw [trimEndChars, ← List.reverse_suffix, List.reverse_reverse]
  exact rest

theorem length_trimEndChars_le (cs : List Char) : (trimEndChars cs).length ≤ cs.length :=
  (trimEndChars_prefix_self cs).length_le

/-- A trimmed text does not end in a blank character. -/
theorem not_blank_of_mem_getLast?_trimEndChars {cs : List Char} {c : Char}
    (last : c ∈ (trimEndChars cs).getLast?) : isBlank c = false := by
  have stop := List.head?_dropWhile_not isBlank cs.reverse
  rw [trimEndChars, List.getLast?_reverse, Option.mem_def] at last
  rwa [last] at stop

/-- A text that does not end in a blank character is trimmed already. -/
theorem trimEndChars_eq_self {cs : List Char} (stays : ∀ c ∈ cs.getLast?, isBlank c = false) :
    trimEndChars cs = cs := by
  cases ends : cs.getLast? with
  | none =>
      rw [List.getLast?_eq_none_iff.mp ends]
      rfl
  | some last =>
      obtain ⟨front, rfl⟩ := List.getLast?_eq_some_iff.mp ends
      simp [trimEndChars, stays last ends]

/-- Characters written behind a text show in the trimmed text exactly when they are not all
blank. -/
theorem trimEndChars_append_eq_iff {a b : List Char} :
    trimEndChars (a ++ b) = trimEndChars a ↔ trimEndChars b = [] := by
  constructor
  · intro same
    by_contra stays
    rw [trimEndChars_append_of_not_blank a stays] at same
    have lengths := congrArg List.length same
    have longer : 0 < (trimEndChars b).length := List.length_pos_iff.mpr stays
    have shorter := length_trimEndChars_le a
    simp only [List.length_append] at lengths
    omega
  · intro gone
    exact trimEndChars_append_of_blank a (trimEndChars_eq_nil_iff.mp gone)

/-- Trimming leaves nothing exactly of a blank text. -/
theorem trim_eq_empty_iff {s : String} : trim s = "" ↔ Blank s := by
  rw [← String.toList_inj, toList_trim, String.toList_empty, trimChars, trimEndChars_eq_nil_iff]
  refine ⟨fun blank c member => ?_, fun blank c member => ?_⟩
  · -- A character stands among the blank ones in front or among the rest.
    rw [← List.takeWhile_append_dropWhile (p := isBlank) (l := s.toList)] at member
    rcases List.mem_append.mp member with front | rest
    · exact List.mem_takeWhile_imp front
    · exact blank c rest
  · exact blank c ((List.dropWhile_sublist _).subset member)

/-! ## Padding -/

/-- Characters stand between blank ones. -/
def PaddedChars (core cs : List Char) : Prop :=
  ∃ front back, (∀ c ∈ front, isBlank c = true) ∧ (∀ c ∈ back, isBlank c = true) ∧
    cs = front ++ core ++ back

/-- A text is another one between blank characters. -/
def Padded (core s : String) : Prop := PaddedChars core.toList s.toList

/-- Blank characters in front are trimmed away. -/
theorem trimChars_append_of_blank {front : List Char} (blank : ∀ c ∈ front, isBlank c = true)
    (cs : List Char) : trimChars (front ++ cs) = trimChars cs := by
  have gone : front.dropWhile isBlank = [] := by
    simpa [List.dropWhile_eq_nil_iff] using blank
  simp [trimChars, List.dropWhile_append, gone]

theorem trimChars_of_padded {core cs : List Char} (pads : PaddedChars core cs) :
    trimChars cs = trimChars core := by
  obtain ⟨front, back, before, behind, rfl⟩ := pads
  rw [List.append_assoc, trimChars_append_of_blank before, trimChars, trimChars,
    List.dropWhile_append]
  split
  · -- There is nothing but blank characters.
    next nothing =>
    have gone : back.dropWhile isBlank = [] := by
      simpa [List.dropWhile_eq_nil_iff] using behind
    rw [gone, List.isEmpty_iff.mp nothing]
  · exact trimEndChars_append_of_blank _ behind

/-- Padding a text leaves its trimmed form. -/
theorem trim_of_padded {core s : String} (pads : Padded core s) : trim s = trim core := by
  rw [← String.toList_inj, toList_trim, toList_trim]
  exact trimChars_of_padded pads

/-- Every text is its trimmed form, padded. -/
theorem padded_trim (s : String) : Padded (trim s) s := by
  rw [Padded, toList_trim, trimChars]
  generalize s.toList = cs
  have rest := List.takeWhile_append_dropWhile (p := isBlank) (l := cs)
  obtain ⟨back, whole⟩ := trimEndChars_prefix_self (cs.dropWhile isBlank)
  have same : trimEndChars (trimEndChars (cs.dropWhile isBlank) ++ back) =
      trimEndChars (trimEndChars (cs.dropWhile isBlank)) := by
    rw [whole]
    exact (trimEndChars_eq_self fun c last => not_blank_of_mem_getLast?_trimEndChars last).symm
  refine ⟨cs.takeWhile isBlank, back, fun c member => List.mem_takeWhile_imp member,
    trimEndChars_eq_nil_iff.mp (trimEndChars_append_eq_iff.mp same), ?_⟩
  rw [List.append_assoc, whole, rest]

end Overseer.Text
