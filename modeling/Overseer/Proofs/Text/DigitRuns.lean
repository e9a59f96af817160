import Overseer.Proofs.Text.Numerals

/-!
# Runs of digits

Where a number ends is told in two ways: by the first character that is not a digit, or by a number of digits
that is fixed beforehand.  `digitRun` cuts a text in the first way and `fixedDigits?` reads in the second.
Numbers with zeros in front, up to a fixed width, are read back in either way.
-/

namespace Overseer.Text

/-- The digits at the front of a text. -/
def digitRun (cs : List Char) : List Char := cs.takeWhile fun c => (digit? c).isSome

/-- The text behind the digits at its front. -/
def afterDigits (cs : List Char) : List Char := cs.dropWhile fun c => (digit? c).isSome

/-- No digit stands at the front of a text. -/
def NoDigitFirst (cs : List Char) : Prop := ∀ c ∈ cs.head?, digit? c = none

/-- The number that the first `width` characters of a text write, all of them digits, and the text behind. -/
def fixedDigits? (width : Nat) (cs : List Char) : Option (Nat × List Char) :=
  if width ≤ cs.length then (digits? (cs.take width)).map (·, cs.drop width) else none

variable {c : Char} {cs rest : List Char} {n width : Nat}

theorem digitChar_injective : Function.Injective digitChar := by
  intro d e same
  have := congrArg Char.toNat same
  rw [toNat_digitChar, toNat_digitChar] at this
  omega

/-- A character that is not read as a digit is none. -/
theorem digitChar_ne (other : digit? c = none) (d : Fin 10) : digitChar d ≠ c := by
  rintro rfl
  rw [digit?_digitChar] at other
  cases other

/-! ## Cutting -/

theorem noDigitFirst_nil : NoDigitFirst [] := fun _ none => nomatch none

theorem noDigitFirst_cons (stop : digit? c = none) : NoDigitFirst (c :: rest) := by
  rintro _ ⟨⟩
  exact stop

theorem digitRun_append_afterDigits (cs : List Char) : digitRun cs ++ afterDigits cs = cs :=
  List.takeWhile_append_dropWhile

theorem noDigitFirst_afterDigits (cs : List Char) : NoDigitFirst (afterDigits cs) := by
  intro c first
  have := List.head?_dropWhile_not (fun c => (digit? c).isSome) cs
  rw [← afterDigits, Option.mem_def.mp first] at this
  simpa using this

theorem digitRun_eq_nil (stop : NoDigitFirst rest) : digitRun rest = [] := by
  cases rest with
  | nil => rfl
  | cons c rest => exact List.takeWhile_cons_of_neg (by simp [stop c rfl])

theorem afterDigits_eq_self (stop : NoDigitFirst rest) : afterDigits rest = rest := by
  have := digitRun_append_afterDigits rest
  rwa [digitRun_eq_nil stop, List.nil_append] at this

theorem isSome_digit?_of_mem {digits : List (Fin 10)} :
    ∀ c ∈ digits.map digitChar, (digit? c).isSome = true := by
  simp [digit?_digitChar]

theorem digitRun_append (digits : List (Fin 10)) (stop : NoDigitFirst rest) :
    digitRun (digits.map digitChar ++ rest) = digits.map digitChar := by
  have none := digitRun_eq_nil stop
  rw [digitRun] at none ⊢
  rw [List.takeWhile_append_of_pos isSome_digit?_of_mem, none, List.append_nil]

theorem afterDigits_append (digits : List (Fin 10)) (stop : NoDigitFirst rest) :
    afterDigits (digits.map digitChar ++ rest) = rest := by
  have all := afterDigits_eq_self stop
  rw [afterDigits] at all ⊢
  rw [List.dropWhile_append_of_pos isSome_digit?_of_mem, all]

/-! ## Numbers of a fixed width -/

theorem decimalValue_replicate_append (k : Nat) (digits : List (Fin 10)) :
    decimalValue (List.replicate k 0 ++ digits) = decimalValue digits := by
  induction k with
  | zero => rfl
  | succ k ih => rw [List.replicate_succ, List.cons_append, decimalValue_cons, ih]; simp

/-- What is written up to a width are digits of the number, too. -/
theorem exists_padded_eq (width n : Nat) :
    ∃ digits, digits ≠ [] ∧ padded width n = digits.map digitChar ∧ decimalValue digits = n := by
  obtain ⟨digits, some, written, value⟩ := exists_natural_eq n
  refine ⟨List.replicate (width - (natural n).length) 0 ++ digits, by simp [some], ?_, ?_⟩
  · rw [padded, written, List.map_append, List.map_replicate]
    rfl
  · rw [decimalValue_replicate_append, value]

theorem digits?_padded (width n : Nat) : digits? (padded width n) = some n := by
  obtain ⟨digits, some, written, value⟩ := exists_padded_eq width n
  exact digits?_eq_some_iff.mpr ⟨digits, some, written, value⟩

theorem le_length_padded (width n : Nat) : width ≤ (padded width n).length := by
  rw [padded, List.length_append, List.length_replicate]
  omega

theorem length_padded (some : 0 < width) (fits : n < 10 ^ width) : (padded width n).length = width := by
  have short : (natural n).length ≤ width := (Nat.length_toDigits_le_iff (by decide) some).mpr fits
  rw [padded, List.length_append, List.length_replicate]
  omega

/-- A number that fits is read back from its fixed width. -/
theorem fixedDigits?_padded (width n : Nat) (wide : 0 < width) (fits : n < 10 ^ width) (rest : List Char) :
    fixedDigits? width (padded width n ++ rest) = some (n, rest) := by
  have length := length_padded wide fits
  rw [fixedDigits?, if_pos (by rw [List.length_append]; omega), List.take_left' length, digits?_padded,
    List.drop_left' length]
  rfl

/-- A number that is written up to a width is read back from the digits at the front of a text. -/
theorem digitRun_padded_append (width n : Nat) (stop : NoDigitFirst rest) :
    digitRun (padded width n ++ rest) = padded width n ∧ afterDigits (padded width n ++ rest) = rest := by
  obtain ⟨digits, -, written, -⟩ := exists_padded_eq width n
  rw [written]
  exact ⟨digitRun_append digits stop, afterDigits_append digits stop⟩

/-- Nothing but a digit stands before a number. -/
theorem padded_append_ne_cons {rest' : List Char} (other : digit? c = none) :
    padded width n ++ rest ≠ c :: rest' := by
  obtain ⟨digits, some, written, -⟩ := exists_padded_eq width n
  obtain ⟨d, more, rfl⟩ := List.exists_cons_of_ne_nil some
  rw [written]
  exact fun same => digitChar_ne other d (List.cons.inj same).1

end Overseer.Text
