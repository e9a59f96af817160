import Mathlib.Data.List.Induction
import Overseer.Proofs.Capture.Drain
import Overseer.Proofs.Terminal.Cleaning

/-!
# Which lines a bounded buffer keeps

The buffer of a stream takes a line if the line fits together with its newline, and leaves it out
otherwise, whatever came before.  Said of all lines at once, it holds `keptLines`: the lines that fit
into the space one after another, where a line that does not fit takes no space
(`toList_bufferOf`).

* **The bound holds exactly** (`bufferOf_of_lines`): the buffer is never larger, it is made of whole
  lines, a line is left out only if it would make the buffer larger than the bound, and cleaning the
  buffer does not add to it.
* **The buffer does not end at the bound.**  A short line may still fit when a long one has been left out
  before, so what is kept has gaps (`bufferOf_has_gaps`).  It has none exactly if no line behind the
  first one that is left out fits into the space that is left there (`beginning_of_lines_iff`).

## Main definitions

* `bufferOf` — the buffer of a stream behind some lines
* `keptLines` — the lines that fit into so much space, one after another
-/

namespace Overseer.Capture

open Overseer.Terminal

/-- The buffer of a stream when lines have come in. -/
def bufferOf (lines : List String) : String := lines.foldl appendLine ""

/-- The lines that fit into so much space, tried one after another.  A line takes one byte more than it
has, for its newline. -/
def keptLines (space : Nat) : List String → List String
  | [] => []
  | line :: rest =>
    if line.utf8ByteSize + 1 ≤ space then
      line :: keptLines (space - (line.utf8ByteSize + 1)) rest
    else keptLines space rest

variable {space : Nat} {line : String} {lines : List String}

theorem keptLines_cons_of_fits (fits : line.utf8ByteSize + 1 ≤ space) (rest : List String) :
    keptLines space (line :: rest) =
      line :: keptLines (space - (line.utf8ByteSize + 1)) rest :=
  if_pos fits

theorem keptLines_cons_of_not_fits (large : space < line.utf8ByteSize + 1) (rest : List String) :
    keptLines space (line :: rest) = keptLines space rest :=
  if_neg (Nat.not_le.mpr large)

/-! ## The lines that are kept -/

/-- Lines are left out, and no line is moved or doubled. -/
theorem keptLines_sublist (space : Nat) (lines : List String) :
    (keptLines space lines).Sublist lines := by
  induction lines generalizing space with
  | nil => exact List.Sublist.slnil
  | cons line rest ih =>
      by_cases fits : line.utf8ByteSize + 1 ≤ space
      · rw [keptLines_cons_of_fits fits]
        exact (ih _).cons_cons line
      · rw [keptLines_cons_of_not_fits (Nat.not_le.mp fits)]
        exact (ih space).cons line

/-- Lines that fit all together are all kept, and the lines behind them have the space that is left. -/
theorem keptLines_append_of_fits {front : List String} (fits : spaceFor front ≤ space)
    (back : List String) :
    keptLines space (front ++ back) = front ++ keptLines (space - spaceFor front) back := by
  induction front generalizing space with
  | nil => rfl
  | cons line rest ih =>
      rw [spaceFor] at fits
      have here : line.utf8ByteSize + 1 ≤ space := Nat.le_trans (Nat.le_add_right _ _) fits
      rw [List.cons_append, keptLines_cons_of_fits here, ih (by omega), spaceFor, Nat.sub_sub]
      rfl

theorem fits_of_mem_keptLines (kept : line ∈ keptLines space lines) :
    line.utf8ByteSize + 1 ≤ space := by
  induction lines generalizing space with
  | nil => cases kept
  | cons first rest ih =>
      by_cases fits : first.utf8ByteSize + 1 ≤ space
      · rw [keptLines_cons_of_fits fits] at kept
        rcases List.mem_cons.mp kept with rfl | later
        · exact fits
        · exact Nat.le_trans (ih later) (Nat.sub_le _ _)
      · rw [keptLines_cons_of_not_fits (Nat.not_le.mp fits)] at kept
        exact ih kept

/-- Nothing is kept exactly if each line alone is too large. -/
theorem keptLines_eq_nil_iff :
    keptLines space lines = [] ↔ ∀ line ∈ lines, space < line.utf8ByteSize + 1 := by
  induction lines with
  | nil => simp [keptLines]
  | cons first rest ih =>
      rw [List.forall_mem_cons, ← ih]
      by_cases fits : first.utf8ByteSize + 1 ≤ space
      · rw [keptLines_cons_of_fits fits]
        exact iff_of_false (List.cons_ne_nil _ _) fun large => Nat.not_le.mpr large.1 fits
      · rw [keptLines_cons_of_not_fits (Nat.not_le.mp fits)]
        exact (and_iff_right (Nat.not_le.mp fits)).symm

/-- Lines fit all together, or there is a first one that does not fit behind those before it. -/
theorem fits_or_exists_first_too_many (space : Nat) (lines : List String) :
    spaceFor lines ≤ space ∨ ∃ front line back, lines = front ++ line :: back ∧
      spaceFor front ≤ space ∧ space < spaceFor (front ++ [line]) := by
  induction lines generalizing space with
  | nil => exact Or.inl (Nat.zero_le space)
  | cons first rest ih =>
      by_cases fits : first.utf8ByteSize + 1 ≤ space
      · rcases ih (space - (first.utf8ByteSize + 1)) with all | ⟨front, line, back, cut, some, many⟩
        · refine Or.inl ?_
          rw [spaceFor]
          omega
        · refine Or.inr ⟨first :: front, line, back, by rw [cut, List.cons_append], ?_, ?_⟩
          · rw [spaceFor]
            omega
          · rw [List.cons_append, spaceFor]
            omega
      · refine Or.inr ⟨[], first, rest, rfl, Nat.zero_le space, ?_⟩
        rw [List.nil_append, spaceFor, spaceFor]
        omega

/-- **What is kept is a beginning exactly if nothing fits any more behind the first loss.** -/
theorem keptLines_prefix_iff :
    keptLines space lines <+: lines ↔
      ∀ front line back, lines = front ++ line :: back → spaceFor front ≤ space →
        space < spaceFor (front ++ [line]) →
        ∀ later ∈ back, space < spaceFor (front ++ [later]) := by
  constructor
  · rintro beginning front line back rfl fits tooMany
    have large : space - spaceFor front < line.utf8ByteSize + 1 := by
      simp only [spaceFor_append, spaceFor] at tooMany
      omega
    rw [keptLines_append_of_fits fits, keptLines_cons_of_not_fits large,
      List.prefix_append_right_inj] at beginning
    -- The next line kept would have to be the one that is left out, and that one does not fit.
    have nothing : keptLines (space - spaceFor front) back = [] := by
      cases more : keptLines (space - spaceFor front) back with
      | nil => rfl
      | cons next others =>
          rw [more, List.cons_prefix_cons] at beginning
          have kept : next ∈ keptLines (space - spaceFor front) back := by
            rw [more]
            exact List.mem_cons_self
          have fits := fits_of_mem_keptLines kept
          rw [beginning.1] at fits
          exact absurd fits (Nat.not_le.mpr large)
    intro later member
    have large := keptLines_eq_nil_iff.mp nothing later member
    simp only [spaceFor_append, spaceFor]
    omega
  · intro full
    rcases fits_or_exists_first_too_many space lines with all | ⟨front, line, back, rfl, fits, tooMany⟩
    · have every := keptLines_append_of_fits all []
      rw [List.append_nil, keptLines, List.append_nil] at every
      exact ⟨[], by rw [List.append_nil, every]⟩
    · have nothing : keptLines (space - spaceFor front) (line :: back) = [] := by
        rw [keptLines_eq_nil_iff, List.forall_mem_cons]
        refine ⟨?_, fun later member => ?_⟩
        · simp only [spaceFor_append, spaceFor] at tooMany
          omega
        · have large := full front line back rfl fits tooMany later member
          simp only [spaceFor_append, spaceFor] at large
          omega
      rw [keptLines_append_of_fits fits, nothing, List.append_nil]
      exact List.prefix_append front _

/-! ## The buffer -/

theorem appendLine_of_fits {buffer : String}
    (fits : buffer.utf8ByteSize + (line.utf8ByteSize + 1) ≤ maxOutputBytes) :
    appendLine buffer line = (buffer ++ line).push '\n' :=
  if_pos (by omega)

theorem appendLine_of_not_fits {buffer : String}
    (large : maxOutputBytes < buffer.utf8ByteSize + (line.utf8ByteSize + 1)) :
    appendLine buffer line = buffer :=
  if_neg (by omega)

theorem utf8ByteSize_push_newline (buffer line : String) :
    ((buffer ++ line).push '\n').utf8ByteSize =
      buffer.utf8ByteSize + (line.utf8ByteSize + 1) := by
  rw [String.utf8ByteSize_push, String.utf8ByteSize_append, Nat.add_assoc]
  rfl

/-- A buffer takes of further lines those that fit into the space that is left. -/
theorem toList_foldl_appendLine_eq (buffer : String) (bounded : buffer.utf8ByteSize ≤ maxOutputBytes)
    (lines : List String) :
    (lines.foldl appendLine buffer).toList =
      buffer.toList ++ unlines (keptLines (maxOutputBytes - buffer.utf8ByteSize) lines) := by
  induction lines generalizing buffer with
  | nil => simp [keptLines, unlines]
  | cons line rest ih =>
      rw [List.foldl_cons]
      by_cases fits : buffer.utf8ByteSize + (line.utf8ByteSize + 1) ≤ maxOutputBytes
      · have here : line.utf8ByteSize + 1 ≤ maxOutputBytes - buffer.utf8ByteSize := by omega
        have size := utf8ByteSize_push_newline buffer line
        rw [appendLine_of_fits fits, ih _ (by omega), keptLines_cons_of_fits here, size,
          Nat.sub_sub]
        simp [unlines]
      · have large := Nat.not_le.mp fits
        rw [appendLine_of_not_fits large, ih buffer bounded, keptLines_cons_of_not_fits (by omega)]

/-- **A buffer holds the lines that fit**, each with its newline. -/
theorem toList_bufferOf (lines : List String) :
    (bufferOf lines).toList = unlines (keptLines maxOutputBytes lines) :=
  toList_foldl_appendLine_eq "" (Nat.zero_le _) lines

theorem bufferOf_append_singleton (lines : List String) (line : String) :
    bufferOf (lines ++ [line]) = appendLine (bufferOf lines) line := by
  rw [bufferOf, List.foldl_append]
  rfl

theorem utf8ByteSize_bufferOf_le (lines : List String) :
    (bufferOf lines).utf8ByteSize ≤ maxOutputBytes := by
  induction lines using List.reverseRecOn with
  | nil => exact Nat.zero_le _
  | append_singleton lines line ih =>
      rw [bufferOf_append_singleton]
      exact utf8ByteSize_appendLine_le line ih

/-- A line more changes the buffer exactly if it fits. -/
theorem bufferOf_append_singleton_eq_self_iff :
    bufferOf (lines ++ [line]) = bufferOf lines ↔
      maxOutputBytes < (bufferOf lines).utf8ByteSize + (line.utf8ByteSize + 1) := by
  rw [bufferOf_append_singleton]
  constructor
  · intro same
    by_contra fits
    rw [appendLine_of_fits (Nat.not_lt.mp fits)] at same
    have size := utf8ByteSize_push_newline (bufferOf lines) line
    rw [same] at size
    omega
  · exact appendLine_of_not_fits

theorem bufferOf_append_singleton_eq_push_iff :
    bufferOf (lines ++ [line]) = (bufferOf lines ++ line).push '\n' ↔
      (bufferOf lines).utf8ByteSize + (line.utf8ByteSize + 1) ≤ maxOutputBytes := by
  rw [bufferOf_append_singleton]
  constructor
  · intro longer
    have size := utf8ByteSize_push_newline (bufferOf lines) line
    have bound := utf8ByteSize_appendLine_le line (utf8ByteSize_bufferOf_le lines)
    rw [longer] at bound
    omega
  · exact appendLine_of_fits

/-! ## The buffers of a run -/

section

variable {actions : List Action} {p : Pipeline}

/-- The lines that the drain takes have no newline in them. -/
theorem newline_notMem_of_mem_linesTaken (s : Stream) (ran : Pipeline.run? {} actions = some p)
    (member : line ∈ linesTaken s actions) : '\n' ∉ line.toList := by
  have whole := (linesTaken_prefix_linesSent s ran).trans (linesSent_prefix_textsToEnd s ran)
  exact newline_notMem_of_mem_textsToEnd (whole.subset member)

theorem captured_eq_bufferOf (s : Stream) (ran : Pipeline.run? {} actions = some p) :
    (p.lane s).captured = bufferOf (linesTaken s actions) :=
  captured_eq s ran

end

/-- **The bound holds exactly and to the end.**  Behind any lines, the buffer of a stream is at most as
large as the bound and made of lines that came in, each with its newline.  A further line is left out
exactly if the buffer would be larger than the bound with it and its newline.  The cleaned text is a
selection of the characters of the buffer, so it keeps to the bound as well.

Such a buffer is what the capture of a stream holds after any actions, and its lines are whole ones:
they are read back from the buffer by splitting it at its newlines. -/
theorem bufferOf_of_lines :
    (∀ lines : List String,
      (bufferOf lines).utf8ByteSize ≤ maxOutputBytes ∧
      (bufferOf lines).toList = unlines (keptLines maxOutputBytes lines) ∧
      (keptLines maxOutputBytes lines).Sublist lines ∧
      (clean (bufferOf lines)).toList.Sublist (bufferOf lines).toList ∧
      (clean (bufferOf lines)).utf8ByteSize ≤ maxOutputBytes) ∧
    (∀ (lines : List String) (line : String),
      (bufferOf (lines ++ [line]) = bufferOf lines ↔
        maxOutputBytes < (bufferOf lines).utf8ByteSize + (line.utf8ByteSize + 1)) ∧
      (bufferOf (lines ++ [line]) = (bufferOf lines ++ line).push '\n' ↔
        (bufferOf lines).utf8ByteSize + (line.utf8ByteSize + 1) ≤ maxOutputBytes)) ∧
    ∀ (s : Stream) (actions : List Action) (p : Pipeline), Pipeline.run? {} actions = some p →
      (p.lane s).captured = bufferOf (linesTaken s actions) ∧
      (p.lane s).captured.toList.splitOn '\n' =
        (keptLines maxOutputBytes (linesTaken s actions)).map (·.toList) ++ [[]] ∧
      (p.text s).toList.Sublist (p.lane s).captured.toList ∧
      (p.text s).utf8ByteSize ≤ maxOutputBytes := by
  have cleaned : ∀ lines, (clean (bufferOf lines)).utf8ByteSize ≤ maxOutputBytes := fun lines =>
    (utf8ByteSize_clean_le _).trans (utf8ByteSize_bufferOf_le lines)
  refine ⟨fun lines => ?_, fun lines line => ?_, fun s actions p ran => ?_⟩
  · exact ⟨utf8ByteSize_bufferOf_le lines, toList_bufferOf lines, keptLines_sublist _ lines,
      clean_sublist _, cleaned lines⟩
  · exact ⟨bufferOf_append_singleton_eq_self_iff, bufferOf_append_singleton_eq_push_iff⟩
  · have captured := captured_eq_bufferOf s ran
    refine ⟨captured, ?_, clean_sublist _, ?_⟩
    · rw [captured, toList_bufferOf]
      refine splitOn_unlines fun line kept => ?_
      exact newline_notMem_of_mem_linesTaken s ran ((keptLines_sublist _ _).subset kept)
    · rw [Pipeline.text, captured]
      exact cleaned _

/-! ## Gaps -/

/-- Lines without a newline in them are known from the text that they make. -/
theorem eq_of_unlines_eq {few many : List String} (clearFew : ∀ line ∈ few, '\n' ∉ line.toList)
    (clearMany : ∀ line ∈ many, '\n' ∉ line.toList) (same : unlines few = unlines many) :
    few = many := by
  have split := splitOn_unlines clearFew
  rw [same, splitOn_unlines clearMany] at split
  have texts := List.append_cancel_right split
  exact (List.map_injective_iff.mpr fun _ _ chars => String.toList_inj.mp chars) texts.symm

/-- The buffer is a beginning of the lines exactly if the lines kept are one. -/
theorem exists_prefix_bufferOf_iff (clear : ∀ line ∈ lines, '\n' ∉ line.toList) :
    (∃ few, few <+: lines ∧ (bufferOf lines).toList = unlines few) ↔
      keptLines maxOutputBytes lines <+: lines := by
  constructor
  · rintro ⟨few, beginning, holds⟩
    rw [toList_bufferOf] at holds
    have kept := eq_of_unlines_eq
      (fun line member => clear line ((keptLines_sublist _ _).subset member))
      (fun line member => clear line (beginning.subset member)) holds
    rwa [kept]
  · intro beginning
    exact ⟨_, beginning, toList_bufferOf lines⟩

/-- **When a full buffer has no gap.**  Take lines without newlines in them.  What the buffer holds of
them is a beginning of the lines exactly under this condition: if one of them is the first that does not
fit behind all lines before it, then no later one fits there either.

The lines that the drain takes in a run of the capture are such lines, and what it captures is their
buffer. -/
theorem beginning_of_lines_iff (lines : List String) :
    ((∀ line ∈ lines, '\n' ∉ line.toList) →
      ((∃ few, few <+: lines ∧ (bufferOf lines).toList = unlines few) ↔
        ∀ front line back, lines = front ++ line :: back → spaceFor front ≤ maxOutputBytes →
          maxOutputBytes < spaceFor (front ++ [line]) →
          ∀ later ∈ back, maxOutputBytes < spaceFor (front ++ [later]))) ∧
    ∀ (s : Stream) (actions : List Action) (p : Pipeline), Pipeline.run? {} actions = some p →
      linesTaken s actions = lines →
        (p.lane s).captured = bufferOf lines ∧ ∀ line ∈ lines, '\n' ∉ line.toList := by
  constructor
  · intro clear
    rw [exists_prefix_bufferOf_iff clear]
    exact keptLines_prefix_iff
  · rintro s actions p ran rfl
    exact ⟨captured_eq_bufferOf s ran, fun line => newline_notMem_of_mem_linesTaken s ran⟩

theorem utf8ByteSize_replicate (n : Nat) :
    (String.ofList (List.replicate n 'b')).utf8ByteSize = n := by
  rw [String.utf8ByteSize_ofList]
  induction n with
  | zero => rfl
  | succ n ih =>
      rw [List.replicate_succ, String.utf8Len_cons, ih]
      rfl

/-- A line that is as long as the bound, between two short ones. -/
def longBetweenShort : List String :=
  ["start", .ofList (List.replicate maxOutputBytes 'b'), "end"]

theorem keptLines_longBetweenShort :
    keptLines maxOutputBytes longBetweenShort = ["start", "end"] := by
  have start : "start".utf8ByteSize = 5 := rfl
  have long := utf8ByteSize_replicate maxOutputBytes
  have last : "end".utf8ByteSize = 3 := rfl
  rw [longBetweenShort, keptLines_cons_of_fits (by rw [start]; decide),
    keptLines_cons_of_not_fits (by omega), keptLines_cons_of_fits (by rw [start, last]; decide),
    keptLines]

/-- **A full buffer has gaps.**  Of a long line between two short ones the buffer holds the short ones,
and its text shows them as neighbours.  So it is not true that the buffer holds a beginning of the
lines. -/
theorem bufferOf_has_gaps :
    clean (bufferOf longBetweenShort) = "start\nend" ∧
    ¬∀ lines : List String, (∀ line ∈ lines, '\n' ∉ line.toList) →
      ∃ few, few <+: lines ∧ (bufferOf lines).toList = unlines few := by
  have kept := keptLines_longBetweenShort
  constructor
  · have buffer : bufferOf longBetweenShort = "start\nend\n" := by
      rw [← String.toList_inj, toList_bufferOf, kept]
      rfl
    rw [buffer]
    decide +kernel
  · intro beginning
    have clear : ∀ line ∈ longBetweenShort, '\n' ∉ line.toList := by
      simp [longBetweenShort, List.mem_replicate]
    have neighbours := (exists_prefix_bufferOf_iff clear).mp (beginning _ clear)
    rw [kept, longBetweenShort, List.cons_prefix_cons, List.cons_prefix_cons] at neighbours
    -- The line behind the first one would have to be the last one, which is shorter.
    have long := congrArg String.utf8ByteSize neighbours.2.1
    rw [utf8ByteSize_replicate] at long
    exact absurd long (by decide)

end Overseer.Capture
