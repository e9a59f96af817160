import Overseer.Json.Value
import Overseer.Proofs.Text.DigitRuns

/-!
# Which texts are JSON

`Spells` is the grammar of JSON for the values there are: a phrase is spelled at the front of a text, and
the relation names what is left of the text behind it.  The grammar is the whole one for these values, not
the compact part of it that is written: blanks may stand before every token, a character of a string may be
escaped without need, by a letter or by its number, and one beyond the basic plane by the two numbers of its
surrogates.  A numeral takes all the digits that stand there.

The compact text of a value spells the value (`spells_render`).
-/

namespace Overseer.Json

open Overseer.Text

/-! ## Tokens -/

/-- The blanks of JSON. -/
def isSpace (c : Char) : Bool := c = ' ' || c = '\t' || c = '\n' || c = '\r'

/-- A text from its first token on. -/
def skipSpace (cs : List Char) : List Char := cs.dropWhile isSpace

/-- The character that a letter behind a backslash stands for. -/
def letterEscape? : Char → Option Char
  | '"' => some '"'
  | '\\' => some '\\'
  | '/' => some '/'
  | 'b' => some '\x08'
  | 'f' => some '\x0c'
  | 'n' => some '\n'
  | 'r' => some '\r'
  | 't' => some '\t'
  | _ => none

/-- The number of a hexadecimal digit, which may be a capital. -/
def hexValue? (c : Char) : Option Nat :=
  if '0' ≤ c ∧ c ≤ '9' then some (c.toNat - 48)
  else if 'a' ≤ c ∧ c ≤ 'f' then some (c.toNat - 87)
  else if 'A' ≤ c ∧ c ≤ 'F' then some (c.toNat - 55)
  else none

/-- The number that the four hexadecimal digits at the front make, and the text behind them. -/
def hexUnit? : List Char → Option (Nat × List Char)
  | a :: b :: c :: d :: rest => do
      let i ← hexValue? a
      let j ← hexValue? b
      let k ← hexValue? c
      let l ← hexValue? d
      some (((i * 16 + j) * 16 + k) * 16 + l, rest)
  | _ => none

/-- The character with the given number. -/
def char? (n : Nat) : Option Char := if h : n.isValidChar then some (Char.ofNatAux n h) else none

/-- The character that a high and a low surrogate stand for. -/
def surrogates? (high low : Nat) : Option Char :=
  if (0xD800 ≤ high ∧ high < 0xDC00) ∧ 0xDC00 ≤ low ∧ low < 0xE000 then
    char? (0x10000 + (high - 0xD800) * 0x400 + (low - 0xDC00))
  else none

/-- A character of a string, as it may be spelled. -/
inductive SpellsChar : Char → List Char → List Char → Prop
  | plain {c rest} (printed : 0x20 ≤ c.toNat) (quote : c ≠ '"') (backslash : c ≠ '\\') :
      SpellsChar c (c :: rest) rest
  | letter {c l rest} (stands : letterEscape? l = some c) : SpellsChar c ('\\' :: l :: rest) rest
  | number {c n cs rest} (unit : hexUnit? cs = some (n, rest)) (stands : char? n = some c) :
      SpellsChar c ('\\' :: 'u' :: cs) rest
  | surrogates {c high low cs mid rest} (first : hexUnit? cs = some (high, '\\' :: 'u' :: mid))
      (second : hexUnit? mid = some (low, rest)) (stands : surrogates? high low = some c) :
      SpellsChar c ('\\' :: 'u' :: cs) rest

/-- The characters of a string and the quote that ends it. -/
inductive SpellsText : List Char → List Char → List Char → Prop
  | quote {rest} : SpellsText [] ('"' :: rest) rest
  | cons {c s cs mid rest} (first : SpellsChar c cs mid) (others : SpellsText s mid rest) :
      SpellsText (c :: s) cs rest

/-- A natural number: all the digits at the front of the text, and no zero before another digit. -/
def SpellsNatural (n : Nat) (cs rest : List Char) : Prop :=
  ∃ digits, digits ≠ [] ∧ (digits.head? = some 0 → digits = [0]) ∧ cs = digits.map digitChar ++ rest ∧
    NoDigitFirst rest ∧ decimalValue digits = n

/-- An integer: a natural number, or a minus sign before one. -/
inductive SpellsInteger : Int → List Char → List Char → Prop
  | natural {n cs rest} (numeral : SpellsNatural n cs rest) : SpellsInteger n cs rest
  | negative {n cs rest} (numeral : SpellsNatural n cs rest) : SpellsInteger (-n) ('-' :: cs) rest

/-! ## Phrases -/

/-- What the grammar tells apart. -/
inductive Phrase where
  /-- a value -/
  | value (v : Value)
  /-- a field of an object, its name and its value -/
  | field (f : String × Value)
  /-- the fields of an object, at least one, and the brace behind them -/
  | fields (fs : List (String × Value))

/-- **The grammar of JSON**: the phrase is spelled at the front of the first text, and the second is what is
left behind it. -/
inductive Spells : Phrase → List Char → List Char → Prop
  | null {cs rest} (word : skipSpace cs = 'n' :: 'u' :: 'l' :: 'l' :: rest) :
      Spells (.value .null) cs rest
  | true {cs rest} (word : skipSpace cs = 't' :: 'r' :: 'u' :: 'e' :: rest) :
      Spells (.value (.bool Bool.true)) cs rest
  | false {cs rest} (word : skipSpace cs = 'f' :: 'a' :: 'l' :: 's' :: 'e' :: rest) :
      Spells (.value (.bool Bool.false)) cs rest
  | integer {n cs rest} (numeral : SpellsInteger n (skipSpace cs) rest) :
      Spells (.value (.integer n)) cs rest
  | string {s cs mid rest} (quote : skipSpace cs = '"' :: mid) (text : SpellsText s.toList mid rest) :
      Spells (.value (.string s)) cs rest
  | empty {cs mid rest} (brace : skipSpace cs = '\x7b' :: mid) (close : skipSpace mid = '\x7d' :: rest) :
      Spells (.value (.object [])) cs rest
  | object {fs cs mid rest} (brace : skipSpace cs = '\x7b' :: mid) (fields : Spells (.fields fs) mid rest) :
      Spells (.value (.object fs)) cs rest
  | field {s v cs afterQuote afterName afterColon rest} (quote : skipSpace cs = '"' :: afterQuote)
      (name : SpellsText s.toList afterQuote afterName) (colon : skipSpace afterName = ':' :: afterColon)
      (value : Spells (.value v) afterColon rest) : Spells (.field (s, v)) cs rest
  | last {f cs mid rest} (field : Spells (.field f) cs mid) (close : skipSpace mid = '\x7d' :: rest) :
      Spells (.fields [f]) cs rest
  | more {f fs cs mid afterComma rest} (field : Spells (.field f) cs mid)
      (comma : skipSpace mid = ',' :: afterComma) (fields : Spells (.fields fs) afterComma rest) :
      Spells (.fields (f :: fs)) cs rest

variable {c : Char} {s cs rest : List Char} {n : Nat}

/-! ## The compact text -/

theorem skipSpace_cons (token : isSpace c = false) : skipSpace (c :: cs) = c :: cs := by
  rw [skipSpace, List.dropWhile_cons_of_neg (by simp [token])]

theorem hexValue?_hexDigit (small : n < 16) : hexValue? (hexDigit n) = some n := by
  revert n
  decide

/-- A character below the space is the number of its two last hexadecimal digits. -/
theorem hexUnit?_of_lt (low : n < 0x20) :
    hexUnit? ('0' :: '0' :: hexDigit (n / 16) :: hexDigit (n % 16) :: rest) = some (n, rest) := by
  have high := hexValue?_hexDigit (n := n / 16) (by omega)
  have last := hexValue?_hexDigit (n := n % 16) (by omega)
  have zero : hexValue? '0' = some 0 := by decide
  have value : ((0 * 16 + 0) * 16 + n / 16) * 16 + n % 16 = n := by omega
  simp only [hexUnit?, zero, high, last, Option.bind_eq_bind, Option.bind_some, value]

theorem char?_toNat (c : Char) : char? c.toNat = some c := by
  have valid : c.toNat.isValidChar := c.valid
  rw [char?, dif_pos valid]
  rfl

/-- A character as it is written in a string spells the character. -/
theorem spells_escapeChar (c : Char) (rest : List Char) : SpellsChar c (escapeChar c ++ rest) rest := by
  unfold escapeChar
  split_ifs with quote backslash backspace tab newline formfeed carriage low
  · subst quote; exact .letter rfl
  · subst backslash; exact .letter rfl
  · subst backspace; exact .letter rfl
  · subst tab; exact .letter rfl
  · subst newline; exact .letter rfl
  · subst formfeed; exact .letter rfl
  · subst carriage; exact .letter rfl
  · exact .number (hexUnit?_of_lt low) (char?_toNat c)
  · exact .plain (by omega) quote backslash

/-- A string as it is written spells the string. -/
theorem spells_escaped (s rest : List Char) :
    SpellsText s (s.flatMap escapeChar ++ '"' :: rest) rest := by
  induction s with
  | nil => exact .quote
  | cons c s others =>
      rw [List.flatMap_cons, List.append_assoc]
      exact .cons (spells_escapeChar c _) others

/-- A natural number as it is written spells the number. -/
theorem spells_natural (n : Nat) (stop : NoDigitFirst rest) : SpellsNatural n (natural n ++ rest) rest := by
  obtain ⟨digits, some, written, value⟩ := exists_natural_eq n
  refine ⟨digits, some, fun zero => ?_, by rw [written], stop, value⟩
  have none : n = 0 := eq_zero_of_head_natural (by rw [written, List.head?_map, zero]; rfl)
  obtain ⟨d, more, rfl⟩ := List.exists_cons_of_ne_nil some
  obtain rfl : d = 0 := Option.some.inj zero
  have length : (natural n).length = 1 := by rw [none]; rfl
  rw [written, List.length_map, List.length_cons] at length
  rw [List.length_eq_zero_iff.mp (Nat.succ.inj length)]

/-- An integer as it is written spells the integer. -/
theorem spells_integer (n : Int) (stop : NoDigitFirst rest) :
    SpellsInteger n (Text.integer n ++ rest) rest := by
  have numeral := spells_natural n.natAbs stop
  rw [Text.integer]
  split
  · next negative =>
    rw [show n = -(n.natAbs : Int) by omega, Int.natAbs_neg, Int.natAbs_natCast]
    exact .negative numeral
  · next nonnegative =>
    rw [show n = (n.natAbs : Int) by omega, Int.natAbs_natCast]
    exact .natural numeral

/-- An integer begins with a minus sign or with a digit. -/
theorem SpellsInteger.exists_first {n : Int} (numeral : SpellsInteger n cs rest) :
    ∃ c mid, cs = c :: mid ∧ (c = '-' ∨ ∃ d, c = digitChar d) := by
  cases numeral with
  | natural numeral =>
      obtain ⟨digits, some, -, rfl, -, -⟩ := numeral
      obtain ⟨d, more, rfl⟩ := List.exists_cons_of_ne_nil some
      exact ⟨_, _, rfl, Or.inr ⟨d, rfl⟩⟩
  | negative => exact ⟨_, _, rfl, Or.inl rfl⟩

theorem isSpace_digitChar (d : Fin 10) : isSpace (digitChar d) = false := by
  revert d
  decide

theorem SpellsInteger.skipSpace_eq {n : Int} (numeral : SpellsInteger n cs rest) : skipSpace cs = cs := by
  obtain ⟨c, mid, rfl, rfl | ⟨d, rfl⟩⟩ := numeral.exists_first
  · exact skipSpace_cons rfl
  · exact skipSpace_cons (isSpace_digitChar d)

mutual

/-- **The compact text of a value spells the value**, in front of a text that does not begin with a digit. -/
theorem spells_renderChars :
    ∀ (v : Value) (rest : List Char), NoDigitFirst rest → Spells (.value v) (v.renderChars ++ rest) rest
  | .null, _, _ => .null rfl
  | .bool true, _, _ => .true rfl
  | .bool false, _, _ => .false rfl
  | .integer n, _, stop =>
      have numeral := spells_integer n stop
      .integer (numeral.skipSpace_eq.symm ▸ numeral)
  | .string s, rest, _ => .string rfl (by simpa using spells_escaped s.toList rest)
  | .object [], _, _ => .empty rfl rfl
  | .object (f :: fs), rest, _ =>
      .object rfl (by simpa [Value.renderChars] using spells_renderFields (f :: fs) (by simp) rest)

/-- The fields of an object as they are written spell the fields. -/
theorem spells_renderFields : ∀ (fs : List (String × Value)), fs ≠ [] → ∀ rest : List Char,
    Spells (.fields fs) (Value.renderFields fs ++ '\x7d' :: rest) rest
  | [], nonempty, _ => absurd rfl nonempty
  | [(s, v)], _, rest => by
      have value := spells_renderChars v ('\x7d' :: rest) (noDigitFirst_cons (by decide))
      refine .last (.field rfl ?_ (skipSpace_cons rfl) value) (skipSpace_cons rfl)
      simpa [Value.renderFields] using spells_escaped s.toList _
  | (s, v) :: g :: fs, _, rest => by
      have value := spells_renderChars v (',' :: (Value.renderFields (g :: fs) ++ '\x7d' :: rest))
        (noDigitFirst_cons (by decide))
      refine .more (.field rfl ?_ (skipSpace_cons rfl) value) (skipSpace_cons rfl)
        (spells_renderFields (g :: fs) (by simp) rest)
      simpa [Value.renderFields] using spells_escaped s.toList _

end

/-- **The compact text of a value is JSON and spells the value**, with nothing behind it. -/
theorem spells_render (v : Value) : Spells (.value v) v.render.toList [] := by
  have := spells_renderChars v [] noDigitFirst_nil
  rwa [List.append_nil, ← String.toList_ofList (l := v.renderChars)] at this

end Overseer.Json
