import Mathlib.Data.List.Forall2
import Overseer.Proofs.Processes.Matching

/-!
# ASCII names and patterns

Lower case is a matter of whole texts and of tables, but in ASCII it comes down to the letters from `A`
to `Z`, each of which has its small letter 32 places behind it.  All other runs of the table begin beyond
ASCII, and a `Σ` is not among its characters, so nothing depends on the neighbours
(`toList_lowercase_of_ascii`).

With that, matching is what it looks like: an ASCII name matches an ASCII pattern exactly if some part of
the name is the pattern up to the case of letters (`matches_iff_of_ascii`).

## Main definitions

* `Ascii` — texts of ASCII characters
* `SameLetter`, `SameLetters` — characters and texts that differ at most in the case of letters
-/

namespace Overseer.Text

/-- A text of ASCII characters. -/
def Ascii (s : String) : Prop := ∀ c ∈ s.toList, c.toNat < 128

instance (s : String) : Decidable (Ascii s) :=
  decidable_of_iff (s.toList.all fun c => c.toNat < 128) (by simp [Ascii])

/-- The small letter of a letter from `A` to `Z`. -/
def IsSmallOf (small large : Char) : Prop :=
  'A' ≤ large ∧ large ≤ 'Z' ∧ small.toNat = large.toNat + 32

/-- Two characters that differ at most in the case of a letter from `a` to `z`. -/
def SameLetter (a b : Char) : Prop := a = b ∨ IsSmallOf a b ∨ IsSmallOf b a

/-- Two texts, of one length, that differ at most in the case of letters from `a` to `z`. -/
def SameLetters (s t : String) : Prop := List.Forall₂ SameLetter s.toList t.toList

variable {a b c : Char} {s t : String}

/-! ## Letters -/

theorem toNat_toLower (c : Char) :
    c.toLower.toNat = if 65 ≤ c.toNat ∧ c.toNat ≤ 90 then c.toNat + 32 else c.toNat := by
  by_cases large : 65 ≤ c.toNat ∧ c.toNat ≤ 90
  · have lower : c.toLower.val = c.val + 32 :=
      congrArg Char.val (dif_pos (c := c.val ≥ 'A'.val ∧ c.val ≤ 'Z'.val) large)
    have sum : (c.val + 32).toNat = (c.toNat + 32) % 4294967296 := UInt32.toNat_add ..
    rw [if_pos large, Char.toNat, lower, sum]
    omega
  · rw [if_neg large]
    exact congrArg Char.toNat (dif_neg (c := c.val ≥ 'A'.val ∧ c.val ≤ 'Z'.val) large)

theorem isSmallOf_iff : IsSmallOf a b ↔ 65 ≤ b.toNat ∧ b.toNat ≤ 90 ∧ a.toNat = b.toNat + 32 :=
  Iff.rfl

/-- Characters differ at most in the case of a letter if their lower cases are equal. -/
theorem sameLetter_iff : SameLetter a b ↔ a.toLower = b.toLower := by
  rw [SameLetter, isSmallOf_iff, isSmallOf_iff, ← Char.toNat_inj, ← Char.toNat_inj, toNat_toLower,
    toNat_toLower]
  split <;> split <;> omega

theorem sameLetters_iff :
    SameLetters s t ↔ s.toList.map Char.toLower = t.toList.map Char.toLower := by
  have relation : SameLetter = fun a b : Char => a.toLower = b.toLower :=
    funext₂ fun _ _ => propext sameLetter_iff
  rw [SameLetters, relation, ← List.forall₂_eq_eq_eq, List.forall₂_map_left_iff,
    List.forall₂_map_right_iff]

theorem SameLetters.length_eq (same : SameLetters s t) : s.length = t.length := by
  rw [← String.length_toList, ← String.length_toList]
  exact List.Forall₂.length_eq same

theorem SameLetter.ascii (same : SameLetter a b) (ascii : a.toNat < 128) : b.toNat < 128 := by
  rw [SameLetter, isSmallOf_iff, isSmallOf_iff] at same
  -- A letter from `A` to `Z` and its small letter are both in ASCII.
  rcases same with rfl | small | large <;> omega

/-- The case of letters does not lead out of ASCII. -/
theorem SameLetters.ascii (same : SameLetters s t) (ascii : Ascii s) : Ascii t := by
  unfold SameLetters at same
  unfold Ascii at ascii ⊢
  generalize s.toList = cs, t.toList = ds at *
  induction same with
  | nil => exact ascii
  | cons here _ ih =>
      obtain ⟨first, later⟩ := List.forall_mem_cons.mp ascii
      exact List.forall_mem_cons.mpr ⟨here.ascii first, ih later⟩

/-! ## Lower case -/

/-- Of all runs, the first one alone is about ASCII. -/
theorem findSome?_lowercaseRuns_of_ascii {n : Nat} (ascii : n < 128) :
    lowercaseRuns.findSome? (·.image? n) = if 65 ≤ n ∧ n ≤ 90 then some (n + 32) else none := by
  have beyond : ∀ run ∈ lowercaseRuns.tail, 128 ≤ run.first := by decide +kernel
  have others : lowercaseRuns.tail.findSome? (·.image? n) = none := by
    apply List.findSome?_eq_none_iff.mpr
    intro run among
    have first := beyond run among
    exact if_neg fun inside => by omega
  have letters : CaseRun.image? ⟨65, 90, 1, 97⟩ n =
      if 65 ≤ n ∧ n ≤ 90 then some (n + 32) else none := by
    simp only [CaseRun.image?, Nat.mod_one, and_true]
    split
    · congr 1
      omega
    · rfl
  have table : lowercaseRuns = ⟨65, 90, 1, 97⟩ :: lowercaseRuns.tail := rfl
  rw [table, List.findSome?_cons, others, letters]
  by_cases large : 65 ≤ n ∧ n ≤ 90
  · rw [if_pos large]
  · rw [if_neg large]

theorem lowerChar_of_ascii (ascii : c.toNat < 128) : lowerChar c = [c.toLower] := by
  have plain : c ≠ 'İ' := by
    rintro rfl
    exact absurd ascii (by decide)
  rw [lowerChar, if_neg plain, findSome?_lowercaseRuns_of_ascii ascii, ← Char.ofNat_toNat c.toLower,
    toNat_toLower]
  by_cases large : 65 ≤ c.toNat ∧ c.toNat ≤ 90
  · rw [if_pos large, if_pos large]
  · rw [if_neg large, if_neg large, Char.ofNat_toNat]

theorem lowerAfter_of_ascii {before cs : List Char} (ascii : ∀ c ∈ cs, c.toNat < 128) :
    lowerAfter before cs = cs.map Char.toLower := by
  induction cs generalizing before with
  | nil => rfl
  | cons c rest ih =>
      obtain ⟨here, later⟩ := List.forall_mem_cons.mp ascii
      have plain : c ≠ 'Σ' := by
        rintro rfl
        exact absurd here (by decide)
      rw [lowerAfter, if_neg plain, lowerChar_of_ascii here, ih later]
      rfl

/-- **In ASCII, lower case goes character by character.** -/
theorem toList_lowercase_of_ascii (ascii : Ascii s) :
    (lowercase s).toList = s.toList.map Char.toLower := by
  rw [toList_lowercase, lowerChars, lowerAfter_of_ascii ascii]

end Overseer.Text

namespace Overseer.Processes

open Overseer.Text

variable {record record' : ProcessRecord} {pattern pattern' : String}

/-- A name matches a pattern if some part of the name is the pattern up to the case of letters. -/
theorem matches_iff_of_ascii (name : Ascii record.name) (ascii : Ascii pattern) :
    record.matches pattern = true ↔
      ∃ front part back, record.name = front ++ part ++ back ∧ part.length = pattern.length ∧
        SameLetters part pattern := by
  rw [matches_iff, toList_lowercase_of_ascii name, toList_lowercase_of_ascii ascii,
    List.infix_map_iff]
  constructor
  · -- A part of the lower case of the name is the lower case of a part of the name.
    rintro ⟨part, ⟨front, back, cut⟩, same⟩
    have letters : SameLetters (.ofList part) pattern :=
      sameLetters_iff.mpr (by rw [String.toList_ofList, same])
    refine ⟨.ofList front, .ofList part, .ofList back, ?_, letters.length_eq, letters⟩
    rw [← String.toList_inj]
    simp [← cut]
  · rintro ⟨front, part, back, cut, -, same⟩
    refine ⟨part.toList, ⟨front.toList, back.toList, ?_⟩, (sameLetters_iff.mp same).symm⟩
    rw [cut, String.toList_append, String.toList_append]

/-- The case of letters does not matter. -/
theorem matches_congr_of_ascii (name : Ascii record.name) (ascii : Ascii pattern)
    (names : SameLetters record.name record'.name) (patterns : SameLetters pattern pattern') :
    record'.matches pattern' = record.matches pattern := by
  rw [ProcessRecord.matches, ProcessRecord.matches, toList_lowercase_of_ascii name,
    toList_lowercase_of_ascii ascii, toList_lowercase_of_ascii (names.ascii name),
    toList_lowercase_of_ascii (patterns.ascii ascii), sameLetters_iff.mp names,
    sameLetters_iff.mp patterns]

/-- A name that matches a pattern matches every part of it. -/
theorem matches_of_infix_of_ascii (ascii : Ascii pattern) (found : record.matches pattern = true)
    (part : pattern'.toList <:+: pattern.toList) : record.matches pattern' = true := by
  have asciiPart : Ascii pattern' := fun c member => ascii c (part.subset member)
  rw [matches_iff, toList_lowercase_of_ascii ascii] at found
  rw [matches_iff, toList_lowercase_of_ascii asciiPart]
  exact (part.map Char.toLower).trans found

/-- **In ASCII, matching is a search for the pattern up to the case of letters.**  A name matches exactly
if it has a part, as long as the pattern, that differs from it at most in the case of letters.  So the
case of letters in name and pattern does not matter, and a name that matches a pattern matches each part
of it. -/
theorem matches_of_ascii (name : Ascii record.name) (ascii : Ascii pattern) :
    (record.matches pattern = true ↔
      ∃ front part back, record.name = front ++ part ++ back ∧ part.length = pattern.length ∧
        SameLetters part pattern) ∧
    (∀ (other : ProcessRecord) (otherPattern : String), SameLetters record.name other.name →
      SameLetters pattern otherPattern → other.matches otherPattern = record.matches pattern) ∧
    (record.matches pattern = true →
      ∀ part : String, part.toList <:+: pattern.toList → record.matches part = true) := by
  refine ⟨matches_iff_of_ascii name ascii, ?_, ?_⟩
  · intro other otherPattern names patterns
    exact matches_congr_of_ascii name ascii names patterns
  · intro found part within
    exact matches_of_infix_of_ascii ascii found within

/-- A match at the very end of a name, behind a partial one with which it overlaps. -/
theorem matches_behind_partial_match : Ascii "AaaBb" ∧ Ascii "aAbB" ∧
    (ProcessRecord.mk 7 "AaaBb").matches "aAbB" = true ∧
    (ProcessRecord.mk 7 "aAABB").matches "aabb" = true ∧
    (ProcessRecord.mk 7 "AaaBb").matches "Ab" = true := by
  have name : Ascii "AaaBb" := by decide
  have ascii : Ascii "aAbB" := by decide
  have letters : SameLetters "aaBb" "aAbB" := sameLetters_iff.mpr (by decide)
  have names : SameLetters "AaaBb" "aAABB" := sameLetters_iff.mpr (by decide)
  have patterns : SameLetters "aAbB" "aabb" := sameLetters_iff.mpr (by decide)
  obtain ⟨split, cases, parts⟩ :=
    @matches_of_ascii ⟨7, "AaaBb"⟩ "aAbB" name ascii
  have found := split.mpr ⟨"A", "aaBb", "", rfl, rfl, letters⟩
  exact ⟨name, ascii, found, (cases ⟨7, "aAABB"⟩ "aabb" names patterns).trans found,
    parts found "Ab" ⟨['a'], ['B'], rfl⟩⟩

end Overseer.Processes
