import Mathlib.Data.Nat.Digits.Defs
import Overseer.Text.Blank
import Overseer.Text.Decimal
import Overseer.Text.Unsigned

/-!
# Numbers in decimal

A text `Denotes` a number if it consists of an optional plus sign and of at least one digit, and the
digits are those of the number in the decimal system, with zeros in front or not.  This says which texts
are numbers without saying how they are read; `unsigned?` reads just these, as long as the number is below
its bound (`unsigned?_eq_some_iff`).  The text that is written for a number denotes it
(`denotes_naturalText`).
-/

namespace Overseer.Text

/-- The number with the given decimal digits, the first of which counts most. -/
def decimalValue (digits : List (Fin 10)) : Nat := Nat.ofDigits 10 (digits.map Fin.val).reverse

/-- The character of a digit. -/
def digitChar (d : Fin 10) : Char := Nat.digitChar d

/-- A text writes a number: an optional plus sign and at least one digit. -/
def Denotes (s : String) (n : Nat) : Prop :=
  ∃ sign digits, (sign = [] ∨ sign = ['+']) ∧ digits ≠ [] ∧
    s.toList = sign ++ digits.map digitChar ∧ decimalValue digits = n

variable {c : Char} {cs : List Char} {acc bound n m : Nat} {s : String}

theorem decimalValue_cons (d : Fin 10) (digits : List (Fin 10)) :
    decimalValue (d :: digits) = d * 10 ^ digits.length + decimalValue digits := by
  rw [decimalValue, List.map_cons, Nat.ofDigits_reverse_cons, List.length_map, Nat.add_comm,
    Nat.mul_comm]
  rfl

/-! ## Reading digits -/

theorem toNat_digitChar (d : Fin 10) : (digitChar d).toNat = 48 + d :=
  Nat.toNat_digitChar_of_lt_ten d.isLt

theorem digit?_digitChar (d : Fin 10) : digit? (digitChar d) = some d.val := by
  revert d
  decide

/-- The characters that are read as digits are those of the digits. -/
theorem digit?_eq_some_iff : digit? c = some n ↔ ∃ d, c = digitChar d ∧ d.val = n := by
  constructor
  · intro read
    rw [digit?, Option.ite_none_right_eq_some, Option.some.injEq] at read
    obtain ⟨⟨low, high⟩, value⟩ := read
    have low : 48 ≤ c.toNat := low
    have high : c.toNat ≤ 57 := high
    have value : c.toNat - 48 = n := value
    refine ⟨⟨n, by omega⟩, ?_, rfl⟩
    rw [← Char.toNat_inj, toNat_digitChar]
    simp only
    omega
  · rintro ⟨d, rfl, rfl⟩
    exact digit?_digitChar d

/-- Digits are read one behind the other, behind those that make `acc`. -/
theorem digitsFrom?_eq_some_iff :
    digitsFrom? acc cs = some n ↔
      ∃ digits, cs = digits.map digitChar ∧
        acc * 10 ^ digits.length + decimalValue digits = n := by
  induction cs generalizing acc with
  | nil =>
      rw [digitsFrom?, Option.some.injEq]
      constructor
      · rintro rfl
        exact ⟨[], rfl, by simp [decimalValue]⟩
      · rintro ⟨digits, none, value⟩
        obtain rfl : digits = [] := by simpa using none.symm
        simpa [decimalValue] using value
  | cons c rest ih =>
      have shift (d : Fin 10) (digits : List (Fin 10)) :
          (10 * acc + d) * 10 ^ digits.length + decimalValue digits =
            acc * 10 ^ (d :: digits).length + decimalValue (d :: digits) := by
        rw [decimalValue_cons, List.length_cons, pow_succ]
        ring
      rw [digitsFrom?, Option.bind_eq_some_iff]
      simp only [digit?_eq_some_iff, ih]
      constructor
      · rintro ⟨_, ⟨d, rfl, rfl⟩, digits, rfl, rfl⟩
        exact ⟨d :: digits, rfl, (shift d digits).symm⟩
      · rintro ⟨digits, cut, rfl⟩
        obtain ⟨d, more, rfl, rfl, rfl⟩ := List.map_eq_cons_iff.mp cut.symm
        exact ⟨d, ⟨d, rfl, rfl⟩, more, rfl, shift d more⟩

theorem digits?_eq_some_iff :
    digits? cs = some n ↔
      ∃ digits, digits ≠ [] ∧ cs = digits.map digitChar ∧ decimalValue digits = n := by
  cases cs with
  | nil => simp [digits?]
  | cons c rest =>
      rw [digits?.eq_2 _ (List.cons_ne_nil c rest), digitsFrom?_eq_some_iff]
      simp only [Nat.zero_mul, Nat.zero_add]
      constructor
      · rintro ⟨digits, cut, value⟩
        refine ⟨digits, ?_, cut, value⟩
        rintro rfl
        cases cut
      · rintro ⟨digits, -, cut, value⟩
        exact ⟨digits, cut, value⟩

/-- No digit is a plus sign. -/
theorem map_digitChar_ne_plus {digits : List (Fin 10)} {rest : List Char} :
    digits.map digitChar ≠ '+' :: rest := by
  intro cut
  obtain ⟨d, _, -, plus, -⟩ := List.map_eq_cons_iff.mp cut
  revert d
  decide

/-- **A number is read from the texts that denote it, and from no others.** -/
theorem unsignedChars?_eq_some_iff : unsignedChars? s.toList = some n ↔ Denotes s n := by
  unfold unsignedChars? Denotes
  split
  · next rest signed =>
    rw [digits?_eq_some_iff, signed]
    constructor
    · rintro ⟨digits, some, rfl, value⟩
      exact ⟨['+'], digits, Or.inr rfl, some, rfl, value⟩
    · rintro ⟨sign, digits, rfl | rfl, some, cut, value⟩
      · exact absurd cut.symm map_digitChar_ne_plus
      · exact ⟨digits, some, (List.cons.inj cut).2, value⟩
  · next unsigned =>
    rw [digits?_eq_some_iff]
    constructor
    · rintro ⟨digits, some, cut, value⟩
      exact ⟨[], digits, Or.inl rfl, some, cut, value⟩
    · rintro ⟨sign, digits, rfl | rfl, some, cut, value⟩
      · exact ⟨digits, some, cut, value⟩
      · exact absurd cut (unsigned _)

/-- **What is read below a bound** is what a text denotes. -/
theorem unsigned?_eq_some_iff : unsigned? bound s = some n ↔ Denotes s n ∧ n < bound := by
  rw [unsigned?, Option.filter_eq_some_iff, unsignedChars?_eq_some_iff, decide_eq_true_eq]

/-- A text denotes one number at most. -/
theorem Denotes.unique (here : Denotes s n) (there : Denotes s m) : n = m :=
  Option.some.inj
    ((unsignedChars?_eq_some_iff.mpr here).symm.trans (unsignedChars?_eq_some_iff.mpr there))

/-- No character of a number is blank. -/
theorem not_blank_of_mem_of_denotes (denotes : Denotes s n) (member : c ∈ s.toList) :
    isBlank c = false := by
  obtain ⟨sign, digits, signed, -, cut, -⟩ := denotes
  rw [cut, List.mem_append, List.mem_map] at member
  rcases member with plus | ⟨d, -, rfl⟩
  · rcases signed with rfl | rfl
    · cases plus
    · obtain rfl := List.mem_singleton.mp plus
      rfl
  · revert d
    decide

/-! ## Writing digits -/

theorem decimalValue_append_singleton (digits : List (Fin 10)) (d : Fin 10) :
    decimalValue (digits ++ [d]) = 10 * decimalValue digits + d := by
  rw [decimalValue, List.map_append, List.map_singleton, List.reverse_append, List.reverse_singleton,
    List.singleton_append, Nat.ofDigits_cons, decimalValue, Nat.add_comm]

/-- The digits that are written for a number are its digits. -/
theorem exists_natural_eq (n : Nat) :
    ∃ digits, digits ≠ [] ∧ natural n = digits.map digitChar ∧ decimalValue digits = n := by
  induction n using Nat.strong_induction_on with
  | _ n ih =>
      have last (d : Nat) (small : d < 10) : ∃ k : Fin 10, Nat.digitChar d = digitChar k ∧ k.val = d :=
        ⟨⟨d, small⟩, rfl, rfl⟩
      rw [natural, Nat.toDigits_eq_if (by decide)]
      split
      · next small =>
        obtain ⟨k, char, value⟩ := last n small
        refine ⟨[k], List.cons_ne_nil k [], congrArg (fun c => [c]) char, ?_⟩
        rw [decimalValue_cons]
        simpa [decimalValue] using value
      · next large =>
        obtain ⟨digits, -, front, value⟩ := ih (n / 10) (by omega)
        obtain ⟨k, char, value'⟩ := last (n % 10) (Nat.mod_lt n (by decide))
        refine ⟨digits ++ [k], by simp, ?_, ?_⟩
        · rw [List.map_append, ← front, char]
          rfl
        · rw [decimalValue_append_singleton, value, value']
          omega

/-- A written number that begins with a zero is zero. -/
theorem eq_zero_of_head_natural (zero : (natural n).head? = some '0') : n = 0 := by
  induction n using Nat.strong_induction_on with
  | _ n ih =>
      rw [natural, Nat.toDigits_eq_if (by decide)] at zero
      split at zero
      · next small =>
        have char : digitChar ⟨n, small⟩ = digitChar 0 := Option.some.inj zero
        have value := congrArg Char.toNat char
        rw [toNat_digitChar, toNat_digitChar] at value
        exact Nat.add_left_cancel value
      · next large =>
        obtain ⟨first, more, front⟩ := List.exists_cons_of_ne_nil (@Nat.toDigits_ne_nil (n / 10) 10)
        rw [front, List.cons_append, List.head?_cons] at zero
        have := ih (n / 10) (by omega) (by rw [natural, front, List.head?_cons, zero])
        omega

/-- **What is written for a number denotes it.** -/
theorem denotes_naturalText (n : Nat) : Denotes (naturalText n) n := by
  obtain ⟨digits, some, written, value⟩ := exists_natural_eq n
  exact ⟨[], digits, Or.inl rfl, some, by rw [naturalText, String.toList_ofList, written]; rfl, value⟩

/-- The empty text denotes none. -/
theorem not_denotes_empty : ¬Denotes "" n := by
  rintro ⟨sign, digits, -, some, cut, -⟩
  obtain ⟨-, none⟩ := List.append_eq_nil_iff.mp cut.symm
  exact some (List.map_eq_nil_iff.mp none)

end Overseer.Text
