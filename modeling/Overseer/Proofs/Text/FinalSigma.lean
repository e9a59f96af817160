import Mathlib.Data.List.Infix
import Mathlib.Data.List.TakeWhile
import Overseer.Text.Lowercase

/-!
# Lower case of a part of a text

All characters but `Σ` have one lower case wherever they stand, so the lower case of a text is that of
its parts one behind the other (`lowerAfter_append`) — but for the form that a `Σ` takes, which is judged
from the characters on both sides, up to the nearest that are not case-ignorable.  `lowerWithin` is the
lower case of a part between the characters on its two sides.

A `Σ` is *settled* within a part when the part itself decides its form.  If all of them are, the part is
lower-cased alone as it is within any text (`lowerWithin_of_settled`).  A `Σ` that is not settled does
take another form between other characters: a cased character in front of the part turns it into `ς`, or
one behind the part into `σ` (`endsWord_of_not_settled`).
-/

namespace Overseer.Text

/-! ## The nearest character that is not case-ignorable -/

/-- There is a character that decides the case of its surroundings. -/
def decides (cs : List Char) : Bool := cs.any fun c => !isCaseIgnorable c

theorem decides_eq_false_iff {cs : List Char} :
    decides cs = false ↔ ∀ c ∈ cs, isCaseIgnorable c = true := by
  simp [decides]

/-- Characters that decide nothing have no case. -/
theorem cased?_of_not_decides {cs : List Char} (undecided : decides cs = false) :
    cased? cs = false := by
  have gone : cs.dropWhile isCaseIgnorable = [] :=
    List.dropWhile_eq_nil_iff.mpr (decides_eq_false_iff.mp undecided)
  rw [cased?, gone]

/-- What comes behind the deciding character does not matter. -/
theorem cased?_append_of_decides {cs : List Char} (decided : decides cs = true) (more : List Char) :
    cased? (cs ++ more) = cased? cs := by
  have rest : cs.dropWhile isCaseIgnorable ≠ [] := by
    rw [ne_eq, List.dropWhile_eq_nil_iff, ← decides_eq_false_iff, decided]
    exact Bool.noConfusion
  obtain ⟨c, others, found⟩ := List.exists_cons_of_ne_nil rest
  rw [cased?, cased?, List.dropWhile_append, found]
  rfl

theorem cased?_append_of_not_decides {cs : List Char} (undecided : decides cs = false)
    (more : List Char) : cased? (cs ++ more) = cased? more := by
  have gone : cs.dropWhile isCaseIgnorable = [] :=
    List.dropWhile_eq_nil_iff.mpr (decides_eq_false_iff.mp undecided)
  rw [cased?, List.dropWhile_append, gone]
  rfl

/-- Characters with case keep it when more come behind them. -/
theorem cased?_append {cs : List Char} (cased : cased? cs = true) (more : List Char) :
    cased? (cs ++ more) = true := by
  cases decided : decides cs with
  | true => rw [cased?_append_of_decides decided, cased]
  | false => exact absurd cased (by rw [cased?_of_not_decides decided]; exact Bool.noConfusion)

/-! ## Lower case between other characters -/

/-- Lower case of characters that stand behind `before`, given backwards, and in front of `after`. -/
def lowerWithin (before : List Char) : List Char → List Char → List Char
  | [], _ => []
  | c :: rest, after =>
    (if c = 'Σ' then [if endsWord before (rest ++ after) then 'ς' else 'σ'] else lowerChar c) ++
      lowerWithin (c :: before) rest after

theorem lowerWithin_append (before a b after : List Char) :
    lowerWithin before (a ++ b) after =
      lowerWithin before a (b ++ after) ++ lowerWithin (a.reverse ++ before) b after := by
  induction a generalizing before with
  | nil => rfl
  | cons c a ih => simp [lowerWithin, ih]

/-- With nothing behind it, it is the lower case of the characters to the end of the text. -/
theorem lowerWithin_nil (before cs : List Char) : lowerWithin before cs [] = lowerAfter before cs := by
  induction cs generalizing before with
  | nil => rfl
  | cons c rest ih => rw [lowerWithin, lowerAfter, List.append_nil, ih]

/-- **The lower case of a text is that of its parts**, each of them between the others. -/
theorem lowerAfter_append (before a b : List Char) :
    lowerAfter before (a ++ b) =
      lowerWithin before a b ++ lowerAfter (a.reverse ++ before) b := by
  rw [← lowerWithin_nil, ← lowerWithin_nil, lowerWithin_append, List.append_nil]

/-- A text in three parts. -/
theorem lowerChars_append_append (front part back : List Char) :
    lowerChars (front ++ part ++ back) =
      lowerWithin [] front (part ++ back) ++
        (lowerWithin front.reverse part back ++ lowerAfter (part.reverse ++ front.reverse) back) := by
  rw [lowerChars, List.append_assoc, lowerAfter_append, lowerAfter_append, List.append_nil]

/-! ## Settled sigmas -/

/-- The form of a `Σ` between the characters `before`, given backwards, and `after` is the same whatever
stands around them: both sides decide, or one of them decides for `σ` alone. -/
def Settled (before after : List Char) : Prop :=
  decides before = true ∧ decides after = true ∨
    decides before = true ∧ cased? before = false ∨ decides after = true ∧ cased? after = true

instance (before after : List Char) : Decidable (Settled before after) :=
  inferInstanceAs (Decidable (_ ∨ _ ∨ _))

/-- **A settled `Σ` keeps its form**, whatever comes on both sides. -/
theorem Settled.endsWord_append {before after : List Char} (settled : Settled before after)
    (more later : List Char) :
    endsWord (before ++ more) (after ++ later) = endsWord before after := by
  rcases settled with ⟨left, right⟩ | ⟨left, uncased⟩ | ⟨right, cased⟩
  · rw [endsWord, endsWord, cased?_append_of_decides left, cased?_append_of_decides right]
  · rw [endsWord, endsWord, cased?_append_of_decides left, uncased]
    rfl
  · rw [endsWord, endsWord, cased?_append_of_decides right, cased]
    simp

/-- **A `Σ` that is not settled takes another form**, either behind the character `A` or in front of
it. -/
theorem endsWord_of_not_settled {before after : List Char} (loose : ¬Settled before after) :
    endsWord before after = false ∧ endsWord (before ++ ['A']) after = true ∨
      endsWord before after = true ∧ endsWord before (after ++ ['A']) = false := by
  have a : cased? ['A'] = true := by decide +kernel
  unfold Settled at loose
  cases left : decides before with
  | false =>
      -- Behind the part, nothing that has case comes first.
      have open? : cased? after = false := by
        cases right : decides after with
        | false => exact cased?_of_not_decides right
        | true =>
            rw [← Bool.not_eq_true]
            exact fun cased => loose (Or.inr (Or.inr ⟨right, cased⟩))
      refine Or.inl ⟨?_, ?_⟩
      · rw [endsWord, cased?_of_not_decides left]
        rfl
      · rw [endsWord, cased?_append_of_not_decides left, a, open?]
        rfl
  | true =>
      have cased : cased? before = true := by
        rw [← Bool.not_eq_false]
        exact fun uncased => loose (Or.inr (Or.inl ⟨left, uncased⟩))
      have right : decides after = false := by
        rw [← Bool.not_eq_true]
        exact fun right => loose (Or.inl ⟨left, right⟩)
      refine Or.inr ⟨?_, ?_⟩
      · rw [endsWord, cased, cased?_of_not_decides right]
        rfl
      · rw [endsWord, cased, cased?_append_of_not_decides right, a]
        rfl

/-- Every `Σ` in these characters is settled by them. -/
def SettlesSigmas (cs : List Char) : Prop :=
  ∀ front rest, cs = front ++ 'Σ' :: rest → Settled front.reverse rest

/-- **Characters that settle their sigmas are lower-cased alone as they are within any text.** -/
theorem lowerWithin_of_settled {cs : List Char} (settles : SettlesSigmas cs)
    (before after : List Char) : lowerWithin before cs after = lowerChars cs := by
  -- The characters passed so far are what the part itself has in front of those that remain.
  have passed : ∀ front rest, cs = front ++ rest →
      lowerWithin (front.reverse ++ before) rest after = lowerAfter front.reverse rest := by
    intro front rest cut
    induction rest generalizing front with
    | nil => rfl
    | cons c rest ih =>
        have later := ih (front ++ [c]) (by rw [cut]; simp)
        rw [List.reverse_append, List.reverse_singleton, List.singleton_append] at later
        rw [lowerWithin, lowerAfter, ← List.cons_append, later]
        by_cases sigma : c = 'Σ'
        · subst sigma
          rw [(settles front rest cut).endsWord_append]
        · rw [if_neg sigma, if_neg sigma]
  exact passed [] cs rfl

/-! ## Sigmas that are not settled -/

/-- The form of a `Σ` that ends a word, and of one that does not. -/
def sigmaForm (final : Bool) : Char := if final then 'ς' else 'σ'

/-- Characters `x` in front and `y` behind give a `Σ` this form only where it has it anyway. -/
def Spares (x y : List Char) (final : Bool) : Prop :=
  ∀ before after, endsWord (before ++ x) (after ++ y) = final → endsWord before after = final

/-- A cased character in front makes no `σ`. -/
theorem spares_front : Spares ['A'] [] false := by
  intro before after form
  rw [List.append_nil] at form
  cases alone : endsWord before after with
  | false => rfl
  | true =>
      rw [endsWord, Bool.and_eq_true] at alone
      rw [endsWord, cased?_append alone.1, alone.2] at form
      exact form

/-- A cased character behind makes no `ς`. -/
theorem spares_behind : Spares [] ['A'] true := by
  intro before after form
  rw [List.append_nil, endsWord, Bool.and_eq_true, Bool.not_eq_true'] at form
  cases cased : cased? after with
  | false =>
      rw [endsWord, form.1, cased]
      rfl
  | true =>
      rw [cased?_append cased] at form
      exact absurd form.2 Bool.noConfusion

theorem count_sigmaForm_le {x y : List Char} {final : Bool} (spares : Spares x y final)
    (before cs after : List Char) :
    (lowerWithin (before ++ x) cs (after ++ y)).count (sigmaForm final) ≤
      (lowerWithin before cs after).count (sigmaForm final) := by
  induction cs generalizing before with
  | nil => exact Nat.le_refl _
  | cons c rest ih =>
      have later := ih (c :: before)
      rw [List.cons_append] at later
      rw [lowerWithin, lowerWithin, List.count_append, List.count_append]
      refine Nat.add_le_add ?_ later
      by_cases sigma : c = 'Σ'
      · rw [if_pos sigma, if_pos sigma, ← List.append_assoc]
        by_cases form : endsWord (before ++ x) (rest ++ after ++ y) = final
        · rw [form, spares _ _ form]
        · have none : ([sigmaForm (endsWord (before ++ x) (rest ++ after ++ y))]).count
              (sigmaForm final) = 0 := by
            revert form
            cases endsWord (before ++ x) (rest ++ after ++ y) <;> cases final <;> decide
          exact Nat.le_trans (Nat.le_of_eq none) (Nat.zero_le _)
      · rw [if_neg sigma, if_neg sigma]

/-- Lower case around a `Σ`. -/
theorem lowerWithin_sigma (before front rest after : List Char) :
    lowerWithin before (front ++ 'Σ' :: rest) after =
      lowerWithin before front ('Σ' :: rest ++ after) ++
        sigmaForm (endsWord (front.reverse ++ before) (rest ++ after)) ::
          lowerWithin ('Σ' :: (front.reverse ++ before)) rest after := by
  rw [lowerWithin_append, lowerWithin]
  rfl

/-- A `Σ` that takes another form leaves one less of its own form. -/
theorem count_sigmaForm_lt {x y front rest : List Char} {final : Bool} (spares : Spares x y final)
    (alone : endsWord front.reverse rest = final)
    (between : endsWord (front.reverse ++ x) (rest ++ y) ≠ final) :
    (lowerWithin x (front ++ 'Σ' :: rest) y).count (sigmaForm final) <
      (lowerWithin [] (front ++ 'Σ' :: rest) []).count (sigmaForm final) := by
  have inFront := count_sigmaForm_le spares [] front ('Σ' :: rest)
  have behind := count_sigmaForm_le spares ('Σ' :: front.reverse) rest []
  have other : sigmaForm (endsWord (front.reverse ++ x) (rest ++ y)) ≠ sigmaForm final := by
    revert between
    cases endsWord (front.reverse ++ x) (rest ++ y) <;> cases final <;> decide
  rw [List.nil_append] at inFront
  rw [List.nil_append, List.cons_append] at behind
  rw [lowerWithin_sigma, lowerWithin_sigma, List.append_nil, List.append_nil, List.append_nil, alone,
    List.count_append, List.count_append, List.count_cons_self, List.count_cons_of_ne other]
  omega

/-- What is lower-cased between `x` and `y` with fewer sigmas of a form than alone is not found in the
lower case of that text, if `x` and `y` have no sigma of this form. -/
theorem not_infix_lowerChars {x cs y : List Char} {final : Bool}
    (inFront : sigmaForm final ∉ lowerWithin [] x (cs ++ y))
    (behind : sigmaForm final ∉ lowerAfter (cs.reverse ++ x.reverse) y)
    (fewer : (lowerWithin x.reverse cs y).count (sigmaForm final) <
      (lowerWithin [] cs []).count (sigmaForm final)) :
    ¬lowerChars cs <:+: lowerChars (x ++ cs ++ y) := by
  intro found
  have enough := found.sublist.count_le (sigmaForm final)
  rw [lowerChars_append_append, List.count_append, List.count_append,
    List.count_eq_zero_of_not_mem inFront, List.count_eq_zero_of_not_mem behind, lowerChars,
    ← lowerWithin_nil] at enough
  omega

theorem lowerWithin_A (before after : List Char) : lowerWithin before ['A'] after = ['a'] := by
  have alone : lowerChar 'A' = ['a'] := by decide +kernel
  rw [lowerWithin, if_neg (by decide), alone]
  rfl

/-- **Characters that do not settle their sigmas** are lower-cased otherwise in some text: their own
lower case is not found in it. -/
theorem exists_not_infix_lowerChars {cs : List Char} (loose : ¬SettlesSigmas cs) :
    ∃ x y, ¬lowerChars cs <:+: lowerChars (x ++ cs ++ y) := by
  simp only [SettlesSigmas, not_forall] at loose
  obtain ⟨front, rest, rfl, unsettled⟩ := loose
  have foreign : ∀ final, sigmaForm final ∉ ['a'] := by decide
  -- An `A` brings in no sigma, but one of those within loses its form to it.
  rcases endsWord_of_not_settled unsettled with ⟨alone, other⟩ | ⟨alone, other⟩
  · have fewer := count_sigmaForm_lt spares_front alone
      (by rw [List.append_nil, other]; exact Bool.noConfusion)
    refine ⟨['A'], [], not_infix_lowerChars ?_ List.not_mem_nil fewer⟩
    rw [lowerWithin_A]
    exact foreign false
  · have fewer := count_sigmaForm_lt spares_behind alone
      (by rw [List.append_nil, other]; exact Bool.noConfusion)
    refine ⟨[], ['A'], not_infix_lowerChars List.not_mem_nil ?_ fewer⟩
    rw [← lowerWithin_nil, lowerWithin_A]
    exact foreign true

end Overseer.Text
