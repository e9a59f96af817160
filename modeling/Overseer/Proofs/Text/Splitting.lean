/-!
# Cutting a list at an element

Two facts about `List.splitOn` that hold for every kind of element, be it the slash of a path or the
newline of a text: a piece does not hold the element at which it was cut, and what stands in front of
the first such element stays with the first piece.
-/

namespace Overseer.Text

/-- No piece of a split holds the element at which it was split. -/
theorem not_mem_of_mem_splitOn {α : Type} [BEq α] [LawfulBEq α] {a : α} {l piece : List α}
    (member : piece ∈ l.splitOn a) : a ∉ piece := by
  induction l generalizing piece with
  | nil =>
      rw [List.splitOn_nil, List.mem_singleton] at member
      simp [member]
  | cons x l ih =>
      rw [List.splitOn_cons_eq_if_modifyHead] at member
      split at member
      · rcases List.mem_cons.mp member with rfl | later
        · simp
        · exact ih later
      · next other =>
        cases split : l.splitOn a with
        | nil => exact absurd split (List.splitOn_ne_nil a l)
        | cons first rest =>
            rw [split, List.modifyHead_cons] at member
            rcases List.mem_cons.mp member with rfl | later
            · have free : a ∉ first := ih (split ▸ List.mem_cons_self)
              have differ : a ≠ x := by
                rintro rfl
                simp at other
              simp [differ, free]
            · exact ih (split ▸ List.mem_cons_of_mem first later)

/-- A beginning without the element stays with the first piece of a split. -/
theorem splitOn_append_of_not_mem {α : Type} [BEq α] [LawfulBEq α] {a : α} {front : List α}
    (free : a ∉ front) (behind : List α) :
    (front ++ behind).splitOn a = (behind.splitOn a).modifyHead (front ++ ·) := by
  induction front with
  | nil => cases split : behind.splitOn a <;> simp [split]
  | cons x front ih =>
      have other : (x == a) = false := by
        rw [beq_eq_false_iff_ne]
        rintro rfl
        exact free List.mem_cons_self
      rw [List.cons_append, List.splitOn_cons_eq_if_modifyHead, other,
        ih fun later => free (List.mem_cons_of_mem x later)]
      simp [List.modifyHead_modifyHead, Function.comp_def]

end Overseer.Text
