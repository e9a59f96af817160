import Mathlib.Data.List.Infix
import Overseer.Processes.Reaper

/-!
# Names that match a pattern

A name matches a pattern when the lower case of the pattern stands somewhere in the lower case of the
name (`matches_iff`).  Lower case leaves no character out, so the empty pattern is the only one whose
lower case is empty, and with that the only one that every name matches (`forall_matches_iff`).
-/

namespace Overseer

open Overseer.Text

namespace Text

theorem lowerChar_ne_nil (c : Char) : lowerChar c ≠ [] := by
  unfold lowerChar
  split
  · simp
  · split <;> simp

theorem lowerAfter_eq_nil_iff {before cs : List Char} : lowerAfter before cs = [] ↔ cs = [] := by
  cases cs with
  | nil => simp [lowerAfter]
  | cons c rest =>
      rw [lowerAfter, List.append_eq_nil_iff]
      refine iff_of_false ?_ (List.cons_ne_nil _ _)
      rintro ⟨nothing, -⟩
      split at nothing
      · simp at nothing
      · exact lowerChar_ne_nil c nothing

/-- **Lower case leaves nothing of nothing only.** -/
theorem lowercase_eq_empty_iff {s : String} : lowercase s = "" ↔ s = "" := by
  rw [← String.toList_inj, toList_lowercase, String.toList_empty, lowerChars, lowerAfter_eq_nil_iff,
    ← String.toList_empty, String.toList_inj]

end Text

namespace Processes

theorem containsChars_iff {pattern text : List Char} :
    containsChars pattern text = true ↔ pattern <:+: text := by
  induction text with
  | nil => rw [containsChars, List.isEmpty_iff, List.infix_nil]
  | cons c rest ih =>
      rw [containsChars, Bool.or_eq_true, List.isPrefixOf_iff_prefix, ih, List.infix_cons_iff]

/-- **A name matches a pattern if its lower case contains that of the pattern.** -/
theorem matches_iff {record : ProcessRecord} {pattern : String} :
    record.matches pattern = true ↔
      (lowercase pattern).toList <:+: (lowercase record.name).toList :=
  containsChars_iff

/-- **Only the empty pattern matches every process.** -/
theorem forall_matches_iff {pattern : String} :
    (∀ record : ProcessRecord, record.matches pattern = true) ↔ pattern = "" := by
  constructor
  · intro all
    -- A process without a name tells them apart.
    have nameless := matches_iff.mp (all ⟨1, ""⟩)
    have nothing : lowercase "" = "" := lowercase_eq_empty_iff.mpr rfl
    rw [nothing, String.toList_empty, List.infix_nil, ← String.toList_empty,
      String.toList_inj] at nameless
    exact lowercase_eq_empty_iff.mp nameless
  · rintro rfl record
    have nothing : lowercase "" = "" := lowercase_eq_empty_iff.mpr rfl
    rw [matches_iff, nothing]
    exact List.nil_infix

end Processes

end Overseer
