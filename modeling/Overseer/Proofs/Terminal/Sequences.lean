import Overseer.Proofs.Terminal.Scanning

/-!
# Texts with escape sequences in them

What a program writes for a terminal is plain text with escape sequences between.  Here such a text is
made of `Piece`s: plain text, and sequences of each of the four shapes, which are complete.  Pieces may
stand next to each other in any order, and a text may begin with a character that would have closed the
sequence in front of it.

A scan that comes to a piece outside of every sequence leaves it outside of every sequence, and has
written the piece if it is plain text and nothing if it is a sequence (`scan_piece`).  So of the whole
text it writes the plain text (`scan_written`), and cleaning takes the sequences and nothing else
(`clean_written`).
-/

namespace Overseer.Terminal

open Overseer.Text

/-- The two ways to close a title sequence. -/
inductive TitleEnd where
  /-- the bell -/
  | bell
  /-- an escape character and a backslash -/
  | backslash
  deriving DecidableEq, Repr

/-- The characters that close a title sequence. -/
def TitleEnd.chars : TitleEnd → List Char
  | bell => [Terminal.bell]
  | backslash => [escape, '\\']

/-- A piece of a text for a terminal. -/
inductive Piece where
  /-- plain text -/
  | text (cs : List Char) (plain : Plain cs)
  /-- a control sequence with its parameters and its final character -/
  | control (params : List Char) (final : Char)
      (within : ∀ c ∈ params, isFinal c = false ∧ c ≠ '\n') (closes : isFinal final = true)
  /-- a title sequence with the title -/
  | title (body : List Char) (ending : TitleEnd)
      (within : ∀ c ∈ body, c ≠ bell ∧ c ≠ escape ∧ c ≠ '\n')
  /-- a sequence of two characters -/
  | pair (c : Char) (inRange : 0x30 ≤ c.toNat ∧ c.toNat ≤ 0x7E) (alone : c ≠ '[' ∧ c ≠ ']')

namespace Piece

/-- The characters of a piece. -/
def chars : Piece → List Char
  | text cs _ => cs
  | control params final _ _ => escape :: '[' :: params ++ [final]
  | title body ending _ => escape :: ']' :: body ++ ending.chars
  | pair c _ _ => [escape, c]

/-- The plain text of a piece: a sequence has none. -/
def plainText : Piece → List Char
  | text cs _ => cs
  | control .. | title .. | pair .. => []

end Piece

/-- A text that is made of pieces. -/
def written (pieces : List Piece) : List Char := pieces.flatMap Piece.chars

/-- The plain text among pieces, and nothing else. -/
def plainTextOf (pieces : List Piece) : List Char := pieces.flatMap Piece.plainText

example : written [.control ['3', '1'] 'm' (by simp [isFinal]) rfl,
    .text ['r', 'e', 'd'] (by simp [Plain, isControl]),
    .title ['t'] .backslash (by simp [bell, escape]), .pair '7' (by decide) (by decide)] =
      "\x1b[31mred\x1b]t\x1b\\\x1b7".toList := rfl

variable {c : Char} {cs params body : List Char}

/-! ## What a scan makes of a piece -/

/-- The parameters of a control sequence lead to its final character, and that leads out of it. -/
theorem scan_params (within : ∀ c ∈ params, isFinal c = false ∧ c ≠ '\n')
    (closes : isFinal c = true) (rest : List Char) :
    scan .control (params ++ c :: rest) = scan .plain rest := by
  induction params with
  | nil =>
      have same : c ≠ '\n' := by
        rintro rfl
        exact absurd closes (by decide)
      simp [scan, Mode.shows, Mode.next, same, closes]
  | cons d params ih =>
      obtain ⟨⟨inside, same⟩, later⟩ := List.forall_mem_cons.mp within
      rw [List.cons_append, ← ih later]
      simp [scan, Mode.shows, Mode.next, same, inside]

/-- A title leads to the end of its sequence, and each of the two ends leads out of it. -/
theorem scan_titleBody (within : ∀ c ∈ body, c ≠ bell ∧ c ≠ escape ∧ c ≠ '\n')
    (ending : TitleEnd) (rest : List Char) :
    scan .title (body ++ (ending.chars ++ rest)) = scan .plain rest := by
  induction body with
  | nil => cases ending <;> rfl
  | cons c body ih =>
      obtain ⟨⟨noBell, noEscape, same⟩, later⟩ := List.forall_mem_cons.mp within
      rw [List.cons_append, ← ih later]
      simp [scan, Mode.shows, Mode.next, same, noBell, noEscape]

/-- The character behind an escape character is swallowed, if it opens no longer sequence. -/
theorem scan_pair (inRange : 0x30 ≤ c.toNat ∧ c.toNat ≤ 0x7E) (alone : c ≠ '[' ∧ c ≠ ']')
    (rest : List Char) : scan .plain (escape :: c :: rest) = scan .plain rest := by
  have same : c ≠ '\n' := by
    rintro rfl
    exact absurd inRange (by decide)
  show scan .escaped (c :: rest) = scan .plain rest
  simp [scan, Mode.shows, Mode.next, same, alone]

/-- **Of a piece, a scan writes the plain text**, and behind it stands outside of every sequence
again. -/
theorem scan_piece (piece : Piece) (rest : List Char) :
    scan .plain (piece.chars ++ rest) = piece.plainText ++ scan .plain rest := by
  cases piece with
  | text cs plain => exact scan_text plain rest
  | control params final within closes =>
      show scan .control (params ++ [final] ++ rest) = scan .plain rest
      rw [List.append_assoc]
      exact scan_params within closes rest
  | title body ending within =>
      show scan .title (body ++ ending.chars ++ rest) = scan .plain rest
      rw [List.append_assoc]
      exact scan_titleBody within ending rest
  | pair c inRange alone => exact scan_pair inRange alone rest

/-! ## What a scan makes of a text that is made of pieces -/

/-- **Of a text that is made of pieces, a scan writes the plain text.** -/
theorem scan_written (pieces : List Piece) :
    scan .plain (written pieces) = plainTextOf pieces := by
  induction pieces with
  | nil => rfl
  | cons piece pieces ih =>
      show scan .plain (piece.chars ++ written pieces) = piece.plainText ++ plainTextOf pieces
      rw [scan_piece, ih]

theorem plain_plainText (piece : Piece) : Plain piece.plainText := by
  cases piece with
  | text cs plain => exact plain
  | _ => exact fun c member => absurd member List.not_mem_nil

theorem plain_plainTextOf (pieces : List Piece) : Plain (plainTextOf pieces) := by
  intro c member
  obtain ⟨piece, -, inside⟩ := List.mem_flatMap.mp member
  exact plain_plainText piece c inside

/-- **Complete escape sequences vanish whole and take nothing else with them.**  A text that is made of
pieces is cleaned to what its plain text alone is cleaned to, and that is this plain text, trimmed. -/
theorem clean_written (pieces : List Piece) :
    clean (.ofList (written pieces)) = clean (.ofList (plainTextOf pieces)) ∧
      clean (.ofList (plainTextOf pieces)) = trimEnd (.ofList (plainTextOf pieces)) := by
  have trimmed := clean_of_plain (plain_plainTextOf pieces)
  refine ⟨?_, trimmed⟩
  rw [trimmed, ← String.toList_inj, toList_clean_eq_scan, toList_trimEnd, String.toList_ofList,
    String.toList_ofList, scan_written]

end Overseer.Terminal
