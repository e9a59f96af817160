/-!
# Sets of code points as ranges

A property of the Unicode character database is kept as the ascending list of the ranges of code
points that have it.

## Main definitions

* `CodeRanges` — closed ranges `(lowest, highest)` of code points
* `CodeRanges.holds` — membership of a character
-/

namespace Overseer.Text

/-- Closed ranges of code points, `(lowest, highest)`, in ascending order. -/
abbrev CodeRanges := List (Nat × Nat)

namespace CodeRanges

/-- The character lies in one of the ranges. -/
def holds (ranges : CodeRanges) (c : Char) : Bool :=
  ranges.any fun r => r.1 ≤ c.toNat && c.toNat ≤ r.2

theorem holds_iff {ranges : CodeRanges} {c : Char} :
    ranges.holds c = true ↔ ∃ r ∈ ranges, r.1 ≤ c.toNat ∧ c.toNat ≤ r.2 := by
  simp [holds]

end CodeRanges

end Overseer.Text
