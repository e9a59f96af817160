import Overseer.Proofs.Json.Grammar

/-!
# Reading JSON

`Value.read?` reads a whole text by the grammar.  It is right in both directions: what it reads is what the
text spells, and every spelling is read (`read?_eq_some_iff`).  So a text spells one value at most, and as
the compact text of a value spells it, the compact text is read back (`read?_render`) and tells the values
apart (`render_injective`).

The readers of values and of strings are given a number of steps, and the length of the text is always
enough.
-/

namespace Overseer.Json

open Overseer.Text

/-! ## Readers -/

/-- Reads the character at the front of a part of a string. -/
def readChar? : List Char → Option (Char × List Char)
  | '\\' :: 'u' :: cs => do
      let (n, rest) ← hexUnit? cs
      match char? n, rest with
      | some c, rest => some (c, rest)
      | none, '\\' :: 'u' :: mid => do
          let (low, rest) ← hexUnit? mid
          (surrogates? n low).map (·, rest)
      | none, _ => none
  | '\\' :: l :: rest => (letterEscape? l).map (·, rest)
  | c :: rest => if 0x20 ≤ c.toNat ∧ c ≠ '"' ∧ c ≠ '\\' then some (c, rest) else none
  | [] => none

/-- Reads the characters of a string and the quote that ends it, `n` of them at most. -/
def readText? : Nat → List Char → Option (List Char × List Char)
  | 0, _ => none
  | _ + 1, '"' :: rest => some ([], rest)
  | n + 1, cs => do
      let (c, mid) ← readChar? cs
      let (s, rest) ← readText? n mid
      some (c :: s, rest)

/-- Reads a natural number without zeros in front. -/
def readNatural? (cs : List Char) : Option (Nat × List Char) :=
  if (digitRun cs).head? = some '0' ∧ digitRun cs ≠ ['0'] then none
  else (digits? (digitRun cs)).map (·, afterDigits cs)

/-- Reads an integer. -/
def readInteger? : List Char → Option (Int × List Char)
  | '-' :: cs => (readNatural? cs).map fun (n, rest) => (-n, rest)
  | cs => (readNatural? cs).map fun (n, rest) => (n, rest)

/-- Reads a field, given a reader of its value. -/
def readFieldBy (value : List Char → Option (Value × List Char)) (cs : List Char) :
    Option ((String × Value) × List Char) :=
  match skipSpace cs with
  | '"' :: mid => do
      let (s, mid) ← readText? mid.length mid
      match skipSpace mid with
      | ':' :: mid => do
          let (v, rest) ← value mid
          some ((String.ofList s, v), rest)
      | _ => none
  | _ => none

mutual

/-- Reads a value in at most `n` steps. -/
def readValue? : Nat → List Char → Option (Value × List Char)
  | 0, _ => none
  | n + 1, cs =>
      match skipSpace cs with
      | 'n' :: 'u' :: 'l' :: 'l' :: rest => some (.null, rest)
      | 't' :: 'r' :: 'u' :: 'e' :: rest => some (.bool true, rest)
      | 'f' :: 'a' :: 'l' :: 's' :: 'e' :: rest => some (.bool false, rest)
      | '"' :: mid => (readText? mid.length mid).map fun (s, rest) => (.string (String.ofList s), rest)
      | '\x7b' :: mid =>
          match skipSpace mid with
          | '\x7d' :: rest => some (.object [], rest)
          | _ => (readFields? n mid).map fun (fs, rest) => (.object fs, rest)
      | mid => (readInteger? mid).map fun (i, rest) => (.integer i, rest)

/-- Reads fields and the brace behind them in at most `n` steps. -/
def readFields? : Nat → List Char → Option (List (String × Value) × List Char)
  | 0, _ => none
  | n + 1, cs => do
      let (f, mid) ← readFieldBy (readValue? n) cs
      match skipSpace mid with
      | '\x7d' :: rest => some ([f], rest)
      | ',' :: mid => (readFields? n mid).map fun (fs, rest) => (f :: fs, rest)
      | _ => none

end

/-- Reads a text that spells a value and has only blanks behind it. -/
def Value.read? (text : String) : Option Value :=
  (readValue? (text.length + 1) text.toList).bind fun (v, rest) =>
    if skipSpace rest = [] then some v else none

variable {c : Char} {s cs rest : List Char} {n : Nat}

/-! ## What is read -/

/-- A surrogate is not the number of a character. -/
theorem char?_of_surrogates? {high low : Nat} (stands : surrogates? high low = some c) :
    char? high = none := by
  rw [surrogates?, Option.ite_none_right_eq_some] at stands
  refine dif_neg fun valid => ?_
  rcases valid with _ | _ <;> omega

theorem readChar?_eq_some_iff : readChar? cs = some (c, rest) ↔ SpellsChar c cs rest := by
  constructor
  · intro read
    unfold readChar? at read
    split at read
    · next cs =>
      obtain ⟨⟨n, mid⟩, first, read⟩ := Option.bind_eq_some_iff.mp read
      simp only at read
      split at read
      · next stands =>
        cases read
        exact .number first stands
      · next mid _ =>
        obtain ⟨⟨low, rest'⟩, second, read⟩ := Option.bind_eq_some_iff.mp read
        obtain ⟨c, stands, same⟩ := Option.map_eq_some_iff.mp read
        cases same
        exact .surrogates first second stands
      · cases read
    · next l rest _ =>
      obtain ⟨c, stands, same⟩ := Option.map_eq_some_iff.mp read
      cases same
      exact .letter stands
    · next c rest _ =>
      split at read
      · next plain =>
        cases read
        exact .plain plain.1 plain.2.1 plain.2.2
      · cases read
    · cases read
  · intro spells
    cases spells with
    | plain printed quote backslash => simp [readChar?, *]
    | letter stands =>
        rw [readChar?.eq_2, stands]
        · rfl
        · rintro rfl
          cases stands
    | number unit stands => simp [readChar?, unit, stands]
    | surrogates first second stands =>
        simp [readChar?, first, second, stands, char?_of_surrogates? stands]

theorem length_lt_of_hexUnit? (unit : hexUnit? cs = some (n, rest)) : rest.length < cs.length := by
  unfold hexUnit? at unit
  split at unit
  · simp only [Option.bind_eq_bind, Option.bind_eq_some_iff] at unit
    obtain ⟨_, -, _, -, _, -, _, -, same⟩ := unit
    cases same
    simp only [List.length_cons]
    omega
  · cases unit

/-- A character of a string takes some text. -/
theorem SpellsChar.length_lt (spells : SpellsChar c cs rest) : rest.length < cs.length := by
  cases spells with
  | plain => simp
  | letter =>
      simp only [List.length_cons]
      omega
  | number first =>
      have := length_lt_of_hexUnit? first
      simp only [List.length_cons]
      omega
  | surrogates first second =>
      have := length_lt_of_hexUnit? first
      have := length_lt_of_hexUnit? second
      simp only [List.length_cons] at *
      omega

theorem SpellsText.length_lt (spells : SpellsText s cs rest) : rest.length < cs.length := by
  induction spells with
  | quote => simp
  | cons first _ ih => exact ih.trans first.length_lt

theorem spells_of_readText? (read : readText? n cs = some (s, rest)) : SpellsText s cs rest := by
  induction n generalizing cs s with
  | zero => cases read
  | succ n ih =>
      rcases em (∃ mid, cs = '"' :: mid) with ⟨mid, rfl⟩ | noQuote
      · cases read
        exact .quote
      · rw [readText?.eq_3 _ _ fun mid quote => noQuote ⟨mid, quote⟩] at read
        obtain ⟨⟨c, mid⟩, first, read⟩ := Option.bind_eq_some_iff.mp read
        obtain ⟨⟨s, mid⟩, others, same⟩ := Option.bind_eq_some_iff.mp read
        cases same
        exact .cons (readChar?_eq_some_iff.mp first) (ih others)

theorem SpellsText.readText? (spells : SpellsText s cs rest) (enough : cs.length ≤ n) :
    readText? n cs = some (s, rest) := by
  induction spells generalizing n with
  | quote =>
      obtain _ | n := n
      · cases enough
      · rfl
  | @cons c s cs mid rest first others ih =>
      have shorter := first.length_lt
      obtain _ | n := n
      · omega
      · have more := ih (n := n) (by omega)
        have noQuote : ∀ mid, cs ≠ '"' :: mid := by
          rintro mid rfl
          cases first
          contradiction
        rw [Json.readText?.eq_3 _ _ noQuote, readChar?_eq_some_iff.mpr first]
        simp [more]

theorem readText?_eq_some_iff : readText? cs.length cs = some (s, rest) ↔ SpellsText s cs rest :=
  ⟨spells_of_readText?, fun spells => spells.readText? le_rfl⟩

/-- A zero in front of other digits can be told from the characters as well as from the digits. -/
theorem canonical_iff (digits : List (Fin 10)) :
    ¬((digits.map digitChar).head? = some '0' ∧ digits.map digitChar ≠ ['0']) ↔
      (digits.head? = some 0 → digits = [0]) := by
  have first : (digits.map digitChar).head? = some '0' ↔ digits.head? = some 0 := by
    rw [List.head?_map]
    exact Option.map_injective digitChar_injective |>.eq_iff (b := some 0)
  have single : digits.map digitChar = [0].map digitChar ↔ digits = [0] :=
    List.map_inj_right fun _ _ same => digitChar_injective same
  rw [first, ne_eq, show ['0'] = [0].map digitChar from rfl, single, not_and_not_right]

theorem readNatural?_eq_some_iff {i : Nat} : readNatural? cs = some (i, rest) ↔ SpellsNatural i cs rest := by
  constructor
  · intro read
    rw [readNatural?, Option.ite_none_left_eq_some, Option.map_eq_some_iff] at read
    obtain ⟨canonical, i, value, same⟩ := read
    cases same
    obtain ⟨digits, some, cut, rfl⟩ := digits?_eq_some_iff.mp value
    refine ⟨digits, some, (canonical_iff digits).mp (cut ▸ canonical), ?_, noDigitFirst_afterDigits cs, rfl⟩
    rw [← cut, digitRun_append_afterDigits]
  · rintro ⟨digits, some, canonical, rfl, stop, rfl⟩
    rw [readNatural?, digitRun_append digits stop, afterDigits_append digits stop,
      if_neg ((canonical_iff digits).mpr canonical), digits?_eq_some_iff.mpr ⟨digits, some, rfl, rfl⟩]
    rfl

theorem readInteger?_eq_some_iff {i : Int} : readInteger? cs = some (i, rest) ↔ SpellsInteger i cs rest := by
  constructor
  · intro read
    unfold readInteger? at read
    split at read
    all_goals
      obtain ⟨⟨i, rest⟩, numeral, same⟩ := Option.map_eq_some_iff.mp read
      cases same
    · exact .negative (readNatural?_eq_some_iff.mp numeral)
    · exact .natural (readNatural?_eq_some_iff.mp numeral)
  · intro spells
    cases spells with
    | negative numeral => rw [readInteger?, readNatural?_eq_some_iff.mpr numeral]; rfl
    | natural numeral =>
        rw [readInteger?.eq_2, readNatural?_eq_some_iff.mpr numeral]
        · rfl
        · rintro mid rfl
          obtain ⟨digits, some, -, cut, -, -⟩ := numeral
          obtain ⟨d, more, rfl⟩ := List.exists_cons_of_ne_nil some
          exact digitChar_ne (by decide) d (List.cons.inj cut).1.symm

theorem readFieldBy_eq_some_iff {value : List Char → Option (Value × List Char)} {f : String × Value} :
    readFieldBy value cs = some (f, rest) ↔
      ∃ afterQuote afterName afterColon, skipSpace cs = '"' :: afterQuote ∧
        SpellsText f.1.toList afterQuote afterName ∧ skipSpace afterName = ':' :: afterColon ∧
        value afterColon = some (f.2, rest) := by
  constructor
  · intro read
    unfold readFieldBy at read
    split at read
    · next mid quote =>
      obtain ⟨⟨s, mid⟩, text, read⟩ := Option.bind_eq_some_iff.mp read
      simp only at read
      split at read
      · next colon =>
        obtain ⟨⟨v, rest⟩, value, same⟩ := Option.bind_eq_some_iff.mp read
        cases same
        refine ⟨_, _, _, quote, ?_, colon, value⟩
        rw [String.toList_ofList]
        exact readText?_eq_some_iff.mp text
      · cases read
    · cases read
  · rintro ⟨afterQuote, afterName, afterColon, quote, name, colon, value⟩
    rw [← readText?_eq_some_iff] at name
    simp [readFieldBy, quote, name, colon, value]

/-! ## Reading by the grammar -/

-- The induction is on the steps, over values and fields at once, as either reader calls the other.
theorem spells_of_read (n : Nat) :
    (∀ {v cs rest}, readValue? n cs = some (v, rest) → Spells (.value v) cs rest) ∧
      ∀ {fs cs rest}, readFields? n cs = some (fs, rest) → Spells (.fields fs) cs rest := by
  induction n with
  | zero => constructor <;> intro _ _ _ read <;> cases read
  | succ n ih =>
      constructor
      · intro v cs rest read
        rw [readValue?] at read
        split at read
        · next word => cases read; exact .null word
        · next word => cases read; exact .true word
        · next word => cases read; exact .false word
        · next quote =>
          obtain ⟨⟨s, rest⟩, text, same⟩ := Option.map_eq_some_iff.mp read
          cases same
          refine .string quote ?_
          rw [String.toList_ofList]
          exact readText?_eq_some_iff.mp text
        · next brace =>
          split at read
          · next close => cases read; exact .empty brace close
          · obtain ⟨⟨fs, rest⟩, fields, same⟩ := Option.map_eq_some_iff.mp read
            cases same
            exact .object brace (ih.2 fields)
        · obtain ⟨⟨i, rest⟩, numeral, same⟩ := Option.map_eq_some_iff.mp read
          cases same
          exact .integer (readInteger?_eq_some_iff.mp numeral)
      · intro fs cs rest read
        rw [readFields?] at read
        obtain ⟨⟨⟨s, v⟩, mid⟩, field, read⟩ := Option.bind_eq_some_iff.mp read
        obtain ⟨_, _, _, quote, name, colon, value⟩ := readFieldBy_eq_some_iff.mp field
        have field := Spells.field quote name colon (ih.1 value)
        simp only at read
        split at read
        · next close => cases read; exact .last field close
        · next comma =>
          obtain ⟨⟨fs, rest⟩, fields, same⟩ := Option.map_eq_some_iff.mp read
          cases same
          exact .more field comma (ih.2 fields)
        · cases read

theorem length_skipSpace_le (cs : List Char) : (skipSpace cs).length ≤ cs.length :=
  (List.dropWhile_suffix isSpace).length_le

theorem length_lt_of_skipSpace {mid : List Char} (token : skipSpace cs = c :: mid) :
    mid.length < cs.length := by
  have := length_skipSpace_le cs
  rwa [token] at this

theorem SpellsNatural.length_lt (spells : SpellsNatural n cs rest) : rest.length < cs.length := by
  obtain ⟨digits, some, -, rfl, -, -⟩ := spells
  have := List.length_pos_iff.mpr some
  rw [List.length_append, List.length_map]
  omega

theorem SpellsInteger.length_lt {i : Int} (spells : SpellsInteger i cs rest) : rest.length < cs.length := by
  cases spells with
  | natural numeral => exact numeral.length_lt
  | negative numeral => exact numeral.length_lt.trans (Nat.lt_succ_self _)

/-- A phrase takes some text. -/
theorem Spells.length_lt {p : Phrase} (spells : Spells p cs rest) : rest.length < cs.length := by
  induction spells with
  | null word | true word | false word =>
      have := length_lt_of_skipSpace word
      simp only [List.length_cons] at this
      omega
  | integer numeral => exact numeral.length_lt.trans_le (length_skipSpace_le _)
  | string quote text => exact text.length_lt.trans (length_lt_of_skipSpace quote)
  | empty brace close => exact (length_lt_of_skipSpace close).trans (length_lt_of_skipSpace brace)
  | object brace _ fields => exact fields.trans (length_lt_of_skipSpace brace)
  | field quote name colon _ value =>
      exact value.trans <| (length_lt_of_skipSpace colon).trans <|
        name.length_lt.trans (length_lt_of_skipSpace quote)
  | last _ close field => exact (length_lt_of_skipSpace close).trans field
  | more _ comma _ field fields => exact fields.trans <| (length_lt_of_skipSpace comma).trans field

/-- Fields begin with a quote. -/
theorem Spells.exists_quote {fs : List (String × Value)} (spells : Spells (.fields fs) cs rest) :
    ∃ mid, skipSpace cs = '"' :: mid := by
  cases spells with
  | last field | more field =>
      cases field with
      | field quote => exact ⟨_, quote⟩

/-- No other token begins as a numeral does. -/
theorem SpellsInteger.ne_cons {i : Int} {mid : List Char} (spells : SpellsInteger i cs rest)
    (minus : c ≠ '-') (noDigit : digit? c = none) : cs ≠ c :: mid := by
  rintro rfl
  obtain ⟨_, _, ⟨⟩, rfl | ⟨d, rfl⟩⟩ := spells.exists_first
  · exact minus rfl
  · exact digitChar_ne noDigit d rfl

/-- A phrase is read, a value and the fields of an object in `n + 1` steps. -/
def Phrase.IsRead (n : Nat) (cs rest : List Char) : Phrase → Prop
  | value v => readValue? (n + 1) cs = some (v, rest)
  | field f => readFieldBy (readValue? n) cs = some (f, rest)
  | fields fs => readFields? (n + 1) cs = some (fs, rest)

/-- What is spelled is read, in as many steps as the text has characters. -/
theorem Spells.isRead {p : Phrase} (spells : Spells p cs rest) (enough : cs.length ≤ n + 1) :
    p.IsRead n cs rest := by
  -- What a reader calls for starts behind a token at least, so that one step less is enough for it.
  induction spells generalizing n with
  | null word | true word | false word => simp [Phrase.IsRead, readValue?, word]
  | integer numeral =>
      rw [Phrase.IsRead, readValue?]
      split
      · next word => exact absurd word (numeral.ne_cons (by decide) (by decide))
      · next word => exact absurd word (numeral.ne_cons (by decide) (by decide))
      · next word => exact absurd word (numeral.ne_cons (by decide) (by decide))
      · next word => exact absurd word (numeral.ne_cons (by decide) (by decide))
      · next word => exact absurd word (numeral.ne_cons (by decide) (by decide))
      · rw [readInteger?_eq_some_iff.mpr numeral]
        rfl
  | string quote text => simp [Phrase.IsRead, readValue?, quote, readText?_eq_some_iff.mpr text]
  | empty brace close => simp [Phrase.IsRead, readValue?, brace, close]
  | @object fs cs mid rest brace fields ih =>
      have := length_lt_of_skipSpace brace
      have := fields.length_lt
      obtain _ | n := n
      · omega
      have read : readFields? (n + 1) mid = some (fs, rest) := ih (by omega)
      rw [Phrase.IsRead, readValue?, brace]
      simp only
      split
      · next close =>
        obtain ⟨_, quote⟩ := fields.exists_quote
        simp [quote] at close
      · rw [read]
        rfl
  | @field s v _ _ _ afterColon rest quote name colon value ih =>
      have := length_lt_of_skipSpace quote
      have := name.length_lt
      have := length_lt_of_skipSpace colon
      have := value.length_lt
      obtain _ | n := n
      · omega
      exact readFieldBy_eq_some_iff.mpr ⟨_, _, _, quote, name, colon, ih (by omega)⟩
  | @last f cs mid rest _ close ih =>
      have field : readFieldBy (readValue? n) cs = some (f, mid) := ih enough
      simp [Phrase.IsRead, readFields?, field, close]
  | @more f fs cs mid afterComma rest field comma fields ih ih' =>
      have := field.length_lt
      have := length_lt_of_skipSpace comma
      have := fields.length_lt
      obtain _ | n := n
      · omega
      have field : readFieldBy (readValue? (n + 1)) cs = some (f, mid) := ih enough
      have fields : readFields? (n + 1) afterComma = some (fs, rest) := ih' (by omega)
      rw [Phrase.IsRead, readFields?, field]
      simp [comma, fields]

/-- **What is read is what a text spells**, with blanks behind it and nothing else. -/
theorem read?_eq_some_iff {text : String} {v : Value} :
    Value.read? text = some v ↔ ∃ rest, Spells (.value v) text.toList rest ∧ skipSpace rest = [] := by
  rw [Value.read?, Option.bind_eq_some_iff]
  constructor
  · rintro ⟨⟨v, rest⟩, read, same⟩
    obtain ⟨blank, same⟩ := Option.ite_none_right_eq_some.mp same
    cases same
    exact ⟨rest, (spells_of_read _).1 read, blank⟩
  · rintro ⟨rest, spells, blank⟩
    have read : readValue? (text.length + 1) text.toList = some (v, rest) :=
      spells.isRead (String.length_toList.trans_le (Nat.le_succ _))
    exact ⟨_, read, if_pos blank⟩

/-- **A text spells one value at most**, and ends it in one place. -/
theorem Spells.unique {v w : Value} {rest' : List Char} (here : Spells (.value v) cs rest)
    (there : Spells (.value w) cs rest') : v = w ∧ rest = rest' := by
  have read : readValue? (cs.length + 1) cs = some (v, rest) := here.isRead (Nat.le_succ _)
  have read' : readValue? (cs.length + 1) cs = some (w, rest') := there.isRead (Nat.le_succ _)
  exact Prod.mk.inj (Option.some.inj (read.symm.trans read'))

/-- The compact text of a value spells that value and no other. -/
theorem spells_render_iff {v w : Value} : Spells (.value w) v.render.toList rest ↔ w = v ∧ rest = [] := by
  constructor
  · exact fun spells => spells.unique (spells_render v)
  · rintro ⟨rfl, rfl⟩
    exact spells_render w

/-- **The compact text of a value is read back.** -/
theorem read?_render (v : Value) : Value.read? v.render = some v :=
  read?_eq_some_iff.mpr ⟨[], spells_render v, rfl⟩

/-- Two values that are written alike are the same. -/
theorem render_injective : Function.Injective Value.render := by
  intro v w same
  have read := read?_render v
  rw [same, read?_render] at read
  exact (Option.some.inj read).symm

end Overseer.Json
