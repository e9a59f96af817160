import Overseer.Proofs.Terminal.Cleaning
import Overseer.Proofs.Text.Splitting

/-!
# Cleaning in one pass

`clean` cuts a text into lines, strips a carriage return off each of them and follows the escape
sequences of a line by loops within loops.  `scan` does none of this: it reads the text once, character
by character, and all that it keeps in mind is a `Mode`, one of five.  A character is written or left
out on the spot.

`clean_eq_scan` says that both come to the same, but for the blank characters at the end.  Each of the
loops is the scan in the mode of that loop (`scan_control`, `scan_title`, `scan_escaped`), as long as
the line lasts; the newline ends every mode (`scan_append_newline`), so the lines may be scanned one
behind the other; and a carriage return at the end of a line is swallowed in each of the modes
(`scan_return`).

What a scan writes is `Plain`, and plain text it writes as it is (`plain_scan`, `scan_text`).

## Main definitions

* `isPrinted` — the characters that a line shows outside of every sequence
* `Mode`, `Mode.next`, `Mode.shows` — where a scan stands, and what a character does there
* `scan` — the characters that a scan writes
* `Plain` — text without control characters but newlines and tabs
-/

namespace Overseer.Terminal

open Overseer.Text

/-- The characters that a line shows where it stands outside of every sequence: the tab, and all that
are no control characters. -/
def isPrinted (c : Char) : Bool := c == '\t' || !isControl c

/-- Where a scan stands. -/
inductive Mode where
  /-- outside of every sequence -/
  | plain
  /-- behind an escape character -/
  | escaped
  /-- in a control sequence -/
  | control
  /-- in a title sequence -/
  | title
  /-- in a title sequence, behind an escape character -/
  | titleEscaped
  deriving DecidableEq, Repr

namespace Mode

/-- The mode behind a character that is read outside of every sequence. -/
def ofPlain (c : Char) : Mode := if c = escape then escaped else plain

/-- The mode behind a character.  A newline ends every sequence. -/
def next (m : Mode) (c : Char) : Mode :=
  if c = '\n' then plain
  else match m with
    | plain => ofPlain c
    | escaped => if c = '[' then control else if c = ']' then title else plain
    | control => if isFinal c then plain else control
    | title => if c = bell then plain else if c = escape then titleEscaped else title
    | titleEscaped => if c = '\\' then plain else ofPlain c

/-- Whether a character is written.  A newline always is. -/
def shows (m : Mode) (c : Char) : Bool :=
  c == '\n' || match m with
    | plain => isPrinted c
    | titleEscaped => c != '\\' && isPrinted c
    | escaped | control | title => false

end Mode

/-- What a scan writes that starts in a mode. -/
def scan (m : Mode) : List Char → List Char
  | [] => []
  | c :: rest => if m.shows c then c :: scan (m.next c) rest else scan (m.next c) rest

variable {m : Mode} {c : Char} {cs line : List Char}

@[simp] theorem scan_nil (m : Mode) : scan m [] = [] := rfl

theorem scan_cons_of_shows (shown : m.shows c = true) (rest : List Char) :
    scan m (c :: rest) = c :: scan (m.next c) rest := if_pos shown

theorem scan_cons_of_not_shows (hidden : m.shows c = false) (rest : List Char) :
    scan m (c :: rest) = scan (m.next c) rest := by
  rw [scan, hidden, if_neg Bool.false_ne_true]

/-- A scan may be interrupted and taken up again in the mode in which it stands. -/
theorem scan_append (m : Mode) (front behind : List Char) :
    scan m (front ++ behind) = scan m front ++ scan (front.foldl Mode.next m) behind := by
  induction front generalizing m with
  | nil => rfl
  | cons c front ih =>
      rw [List.cons_append, List.foldl_cons]
      cases shown : m.shows c with
      | true => rw [scan_cons_of_shows shown, scan_cons_of_shows shown, ih, List.cons_append]
      | false => rw [scan_cons_of_not_shows shown, scan_cons_of_not_shows shown, ih]

theorem scan_newline (m : Mode) (rest : List Char) :
    scan m ('\n' :: rest) = '\n' :: scan .plain rest := by
  cases m <;> rfl

/-- **A newline ends every sequence**: what stands behind it is scanned as if nothing stood before. -/
theorem scan_append_newline (m : Mode) (front rest : List Char) :
    scan m (front ++ '\n' :: rest) = scan m front ++ '\n' :: scan .plain rest := by
  rw [scan_append, scan_newline]

/-! ## The loops of a line are modes of the scan -/

theorem ne_newline_of_clear (clear : '\n' ∉ c :: cs) : c ≠ '\n' := by
  rintro rfl
  exact clear List.mem_cons_self

theorem clear_tail (clear : '\n' ∉ c :: cs) : '\n' ∉ cs :=
  fun later => clear (List.mem_cons_of_mem c later)

theorem skipControl_cons (c : Char) (rest : List Char) :
    skipControl (c :: rest) = if isFinal c then rest else skipControl rest := by
  cases final : isFinal c <;> simp [skipControl, final]

/-- In a control sequence, a scan skips to the end of the sequence. -/
theorem scan_control (clear : '\n' ∉ cs) : scan .control cs = scan .plain (skipControl cs) := by
  induction cs with
  | nil => rfl
  | cons c rest ih =>
      have same : c ≠ '\n' := ne_newline_of_clear clear
      have hidden : Mode.shows .control c = false := by simp [Mode.shows, same]
      rw [scan_cons_of_not_shows hidden, skipControl_cons]
      by_cases final : isFinal c = true
      · simp [Mode.next, same, final]
      · simpa [Mode.next, same, final] using ih (clear_tail clear)

/-- Behind the escape character in a title sequence, only a backslash is skipped. -/
theorem scan_titleEscaped (noBackslash : ∀ rest, cs ≠ '\\' :: rest) :
    scan .titleEscaped cs = scan .plain cs := by
  cases cs with
  | nil => rfl
  | cons c rest =>
      have other : c ≠ '\\' := by
        rintro rfl
        exact noBackslash rest rfl
      simp [scan, Mode.shows, Mode.next, other]

/-- In a title sequence, a scan skips to the end of the sequence. -/
theorem scan_title (clear : '\n' ∉ cs) : scan .title cs = scan .plain (skipTitle cs) := by
  fun_induction skipTitle cs with
  | case1 => rfl
  | case2 rest => rfl
  | case3 rest => rfl
  | case4 rest noBackslash => exact scan_titleEscaped noBackslash
  | case5 c rest noBell noEscape ih =>
      have same : c ≠ '\n' := ne_newline_of_clear clear
      have hidden : Mode.shows .title c = false := by simp [Mode.shows, same]
      rw [scan_cons_of_not_shows hidden, ← ih (clear_tail clear)]
      simp [Mode.next, same, noBell, noEscape]

/-- Behind an escape character, a scan skips to the end of the sequence. -/
theorem scan_escaped (clear : '\n' ∉ cs) : scan .escaped cs = scan .plain (skipEscape cs) := by
  unfold skipEscape
  split
  · rfl
  · exact scan_control (clear_tail clear)
  · exact scan_title (clear_tail clear)
  · next c rest noControl noTitle =>
    have same : c ≠ '\n' := ne_newline_of_clear clear
    have hidden : Mode.shows .escaped c = false := by simp [Mode.shows, same]
    have control : c ≠ '[' := fun opens => noControl opens
    have title : c ≠ ']' := fun opens => noTitle opens
    rw [scan_cons_of_not_shows hidden]
    simp [Mode.next, same, control, title]

/-- **Outside of every sequence, a scan writes what stays of the line.** -/
theorem scan_plain (clear : '\n' ∉ line) : scan .plain line = visible line := by
  fun_induction visible line with
  | case1 => rfl
  | case2 rest ih =>
      have behind : '\n' ∉ skipEscape rest :=
        fun found => clear_tail clear ((skipEscape_suffix rest).subset found)
      rw [← ih behind, ← scan_escaped (clear_tail clear)]
      rfl
  | case3 rest _ ih =>
      rw [← ih (clear_tail clear)]
      rfl
  | case4 c rest noEscape noTab controls ih =>
      have hidden : Mode.shows .plain c = false := by
        simp [Mode.shows, isPrinted, ne_newline_of_clear clear, noTab, controls]
      rw [scan_cons_of_not_shows hidden, ← ih (clear_tail clear)]
      simp [Mode.next, Mode.ofPlain, noEscape]
  | case5 c rest noEscape noTab prints ih =>
      have shown : Mode.shows .plain c = true := by simp [Mode.shows, isPrinted, prints]
      rw [scan_cons_of_shows shown, ← ih (clear_tail clear)]
      simp [Mode.next, Mode.ofPlain, noEscape]

/-! ## The lines of a text -/

/-- A carriage return is swallowed in every mode. -/
theorem scan_return (m : Mode) : scan m ['\r'] = [] := by
  cases m <;> rfl

theorem scan_dropReturn (m : Mode) (line : List Char) : scan m (dropReturn line) = scan m line := by
  unfold dropReturn
  split
  · next last =>
    obtain ⟨front, rfl⟩ := List.getLast?_eq_some_iff.mp last
    rw [List.dropLast_concat, scan_append, scan_return, List.append_nil]
  · rfl

theorem scan_eq_shown (clear : '\n' ∉ line) : scan .plain line = shown line := by
  have rest : '\n' ∉ dropReturn line :=
    fun found => clear ((dropReturn_prefix_self line).subset found)
  rw [shown, ← scan_plain rest, scan_dropReturn]

/-- The lines of a text are scanned one behind the other. -/
theorem scan_lines {lines : List (List Char)} (clear : ∀ line ∈ lines, '\n' ∉ line) :
    scan .plain (lines.flatMap fun line => line ++ ['\n']) =
      lines.flatMap fun line => shown line ++ ['\n'] := by
  induction lines with
  | nil => rfl
  | cons line rest ih =>
      obtain ⟨here, later⟩ := List.forall_mem_cons.mp clear
      rw [List.flatMap_cons, List.flatMap_cons, List.append_assoc, List.singleton_append,
        scan_append_newline, scan_eq_shown here, ih later, List.append_assoc,
        List.singleton_append]

/-- The cleaned lines of a text are what one scan of it writes. -/
theorem cleanedLines_eq_scan (raw : List Char) : cleanedLines raw = scan .plain raw ++ ['\n'] := by
  have lines : scan .plain (raw ++ ['\n']) = cleanedLines raw := by
    rw [← flatMap_splitOn raw, cleanedLines]
    exact scan_lines fun line among => not_mem_of_mem_splitOn among
  rw [← lines, scan_append_newline, scan_nil]

theorem toList_clean_eq_scan (raw : String) :
    (clean raw).toList = trimEndChars (scan .plain raw.toList) := by
  rw [toList_clean, cleanedLines_eq_scan]
  apply trimEndChars_append_of_blank
  simp
  rfl

/-- **Cleaning is one pass over the text**, trimmed at its end. -/
theorem clean_eq_scan (raw : String) : clean raw = trimEnd (.ofList (scan .plain raw.toList)) := by
  rw [← String.toList_inj, toList_clean_eq_scan, toList_trimEnd, String.toList_ofList]

/-! ## Plain text -/

/-- Text without control characters but newlines and tabs. -/
def Plain (cs : List Char) : Prop := ∀ c ∈ cs, isControl c = true → c = '\n' ∨ c = '\t'

/-- What a mode shows is a newline or stands in a line. -/
theorem newline_or_isPrinted_of_shows (shown : m.shows c = true) :
    c = '\n' ∨ isPrinted c = true := by
  cases m with
  | plain => simpa [Mode.shows] using shown
  | titleEscaped =>
      have other : c = '\n' ∨ c ≠ '\\' ∧ isPrinted c = true := by simpa [Mode.shows] using shown
      exact other.imp_right And.right
  | _ => exact Or.inl (by simpa [Mode.shows] using shown)

/-- **A scan writes plain text.** -/
theorem plain_scan (m : Mode) (cs : List Char) : Plain (scan m cs) := by
  induction cs generalizing m with
  | nil => exact fun c member => absurd member List.not_mem_nil
  | cons c cs ih =>
      cases shown : m.shows c with
      | false =>
          rw [scan_cons_of_not_shows shown]
          exact ih (m.next c)
      | true =>
          rw [scan_cons_of_shows shown]
          refine List.forall_mem_cons.mpr ⟨fun controls => ?_, ih (m.next c)⟩
          rcases newline_or_isPrinted_of_shows shown with newline | prints
          · exact Or.inl newline
          · exact Or.inr (by simpa [isPrinted, controls] using prints)

/-- **Plain text is written as it is.** -/
theorem scan_text (plain : Plain cs) (rest : List Char) :
    scan .plain (cs ++ rest) = cs ++ scan .plain rest := by
  induction cs with
  | nil => rfl
  | cons c cs ih =>
      obtain ⟨here, later⟩ := List.forall_mem_cons.mp plain
      rw [List.cons_append, List.cons_append, ← ih later]
      by_cases newline : c = '\n'
      · rw [newline, scan_newline]
      · have inside : c ≠ escape := by
          rintro rfl
          exact absurd (here rfl) (by decide)
        have shown : Mode.shows .plain c = true := by
          cases controls : isControl c with
          | false => simp [Mode.shows, isPrinted, controls]
          | true => simp [Mode.shows, isPrinted, (here controls).resolve_left newline]
        rw [scan_cons_of_shows shown]
        simp [Mode.next, Mode.ofPlain, inside]

/-- Cleaning plain text is trimming it. -/
theorem clean_of_plain (plain : Plain cs) : clean (.ofList cs) = trimEnd (.ofList cs) := by
  have same : scan .plain cs = cs := by simpa using scan_text plain []
  rw [← String.toList_inj, toList_clean_eq_scan, toList_trimEnd, String.toList_ofList, same]

end Overseer.Terminal
