import Overseer.Proofs.Capture.CapturedText

/-!
# Streams that are cut short

A descendant that keeps a stream open keeps it from coming to its end.  The drain is then told to end,
and with it the reader.  What is in the channel at that moment is kept, so no whole line is lost that
has got that far.  The bytes of an unfinished line are in no channel: only the end of the stream would
make a line of them, and this end is not waited for.

`text_of_cut` says which part of the bytes the text of such a stream is made of, and when that makes
no difference.
-/

namespace Overseer.Capture

open Overseer.Terminal Overseer.Text

variable {before after : List Action} {p q : Pipeline}

/-- **What the text of a stream is made of when the drain is told to end**: all lines of a first part
of its bytes.  This part is cut behind a newline or nowhere, and it holds every line that had been put
into the channel.  Where some of the bytes read before are not in it, this makes no difference exactly
when nothing shows of them. -/
theorem text_of_first_part (s : Stream) (ran : Pipeline.run? {} before = some p)
    (rest : p.run? (.cancel :: after) = some q) (done : q.finished = true)
    (fits : spaceFor (textsToEnd (bytesRead s (before ++ .cancel :: after)).data.toList) ≤
      maxOutputBytes) :
    ∃ part, part <+: (bytesRead s (before ++ .cancel :: after)).data.toList ∧
      (openLine part = [] ∨ part = (bytesRead s (before ++ .cancel :: after)).data.toList) ∧
      linesSent s before <+: textsToEnd part ∧ q.text s = clean (textOf part) ∧
      ∀ lost, (bytesRead s before).data.toList = part ++ lost →
        (q.text s = clean (decode (bytesRead s before)) ↔ clean (textOf lost) = "") := by
  have whole : Pipeline.run? {} (before ++ .cancel :: after) = some q :=
    Pipeline.run?_append_eq_some_iff.mpr ⟨p, ran, rest⟩
  have first := (linesTaken_prefix_linesSent s whole).trans (linesSent_prefix_textsToEnd s whole)
  obtain ⟨part, front, lines, cut⟩ := exists_prefix_of_prefix_textsToEnd first
  have text : q.text s = clean (textOf part) := by
    refine text_of_linesTaken s whole lines.symm ?_
    rw [lines]
    exact (spaceFor_mono first).trans fits
  refine ⟨part, front, cut, ?_, text, ?_⟩
  · rw [lines]
    exact linesSent_prefix_linesTaken s whole done
  · intro lost read
    rw [text, decode_eq_textOf, read]
    rcases cut with terminated | everything
    · exact clean_textOf_append_eq_iff terminated lost
    · -- The part is all bytes, those read later too, so nothing of those read before is lost.
      have nothing : lost = [] := by
        rw [everything, bytesRead_append, ByteArray.data_append, Array.toList_append] at read
        have size := congrArg List.length read
        simp only [List.length_append] at size
        exact List.eq_nil_of_length_eq_zero (by omega)
      simp [nothing]

/-- A stream that has come to its end is complete. -/
theorem text_of_closed (s : Stream) (ran : Pipeline.run? {} before = some p)
    (rest : p.run? (.cancel :: after) = some q) (done : q.finished = true)
    (fits : spaceFor (textsToEnd (bytesRead s (before ++ .cancel :: after)).data.toList) ≤
      maxOutputBytes) (closed : (p.lane s).closed = true) :
    q.text s = clean (decode (bytesRead s before)) := by
  have whole : Pipeline.run? {} (before ++ .cancel :: after) = some q :=
    Pipeline.run?_append_eq_some_iff.mpr ⟨p, ran, rest⟩
  have uncut : .cancel ∉ before := by
    intro cut
    have early := (Pipeline.cancelled_iff ran).mpr (Or.inr cut)
    have late := (Pipeline.run?_cons_eq_some_iff.mp rest).1
    simp [Pipeline.enabled, early] at late
  have quiet : bytesRead s (.cancel :: after) = .empty :=
    (Lane.quiet_of_ended (Pipeline.lane_run s rest) (by simp_all [Lane.closed])).2.2
  have taken := linesTaken_of_sentInTime s whole done ⟨before, _, p, rfl, uncut, ran, closed⟩
  rw [text_of_linesTaken s whole taken fits, decode_eq_textOf, bytesRead_append, quiet,
    ByteArray.append_empty]

theorem bytesRead_of_silent (s : Stream) (before : List Action) (silent : bytesRead s after = .empty) :
    bytesRead s (before ++ .cancel :: after) = bytesRead s before := by
  have later : bytesRead s (.cancel :: after) = .empty := silent
  rw [bytesRead_append, later, ByteArray.append_empty]

/-- When the reader waits for more and no more comes, the drain takes the whole lines. -/
theorem linesTaken_of_idle (s : Stream) (ran : Pipeline.run? {} before = some p)
    (rest : p.run? (.cancel :: after) = some q) (done : q.finished = true)
    (idle : (p.lane s).awaitsBytes = true) (silent : bytesRead s after = .empty)
    (unended : (q.lane s).ended = false) :
    linesTaken s (before ++ .cancel :: after) = texts (bytesRead s before).data.toList := by
  have whole : Pipeline.run? {} (before ++ .cancel :: after) = some q :=
    Pipeline.run?_append_eq_some_iff.mpr ⟨p, ran, rest⟩
  obtain ⟨running, noBacklog⟩ : (p.lane s).ended = false ∧ (p.lane s).backlog = [] := by
    simpa [Lane.awaitsBytes] using idle
  have early := linesSent_append_backlog s ran
  rw [noBacklog, List.append_nil, running, textsSoFar, if_neg Bool.false_ne_true] at early
  have late := linesSent_append_backlog s whole
  rw [unended, textsSoFar, if_neg Bool.false_ne_true, bytesRead_of_silent s before silent] at late
  have below := (linesTaken_prefix_linesSent s whole).trans ⟨_, late⟩
  have above := linesSent_prefix_linesTaken s whole done
  rw [early] at above
  exact below.eq_of_length_le above.length_le

/-- When the reader waits for more and no more comes, the text up to the last newline is kept. -/
theorem text_of_idle (s : Stream) (ran : Pipeline.run? {} before = some p)
    (rest : p.run? (.cancel :: after) = some q) (done : q.finished = true)
    (fits : spaceFor (textsToEnd (bytesRead s (before ++ .cancel :: after)).data.toList) ≤
      maxOutputBytes) (idle : (p.lane s).awaitsBytes = true)
    (silent : bytesRead s after = .empty) (unended : (q.lane s).ended = false) :
    q.text s = clean (textOf (wholePart (bytesRead s before).data.toList)) := by
  have whole : Pipeline.run? {} (before ++ .cancel :: after) = some q :=
    Pipeline.run?_append_eq_some_iff.mpr ⟨p, ran, rest⟩
  have taken := linesTaken_of_idle s ran rest done idle silent unended
  rw [bytesRead_of_silent s before silent] at fits
  refine text_of_linesTaken s whole (taken.trans (textsToEnd_wholePart _).symm) ?_
  rw [textsToEnd_wholePart]
  exact (spaceFor_mono (List.prefix_append _ _)).trans fits

/-- **When a cut loses something.**  In every run that is cut short, the text of a stream is made of
all lines of a first part of its bytes, among them every line that had been put into the channel; what
is lost of the bytes read before makes a difference unless nothing shows of it.  If the stream had come
to its end, nothing is lost.  If its reader was waiting for more, and no more came, the open line is
lost and nothing else. -/
theorem text_of_cut (s : Stream) (ran : Pipeline.run? {} before = some p)
    (rest : p.run? (.cancel :: after) = some q) (done : q.finished = true)
    (fits : spaceFor (textsToEnd (bytesRead s (before ++ .cancel :: after)).data.toList) ≤
      maxOutputBytes) :
    (∃ part, part <+: (bytesRead s (before ++ .cancel :: after)).data.toList ∧
      (openLine part = [] ∨ part = (bytesRead s (before ++ .cancel :: after)).data.toList) ∧
      linesSent s before <+: textsToEnd part ∧ q.text s = clean (textOf part) ∧
      ∀ lost, (bytesRead s before).data.toList = part ++ lost →
        (q.text s = clean (decode (bytesRead s before)) ↔ clean (textOf lost) = "")) ∧
    ((p.lane s).closed = true → q.text s = clean (decode (bytesRead s before))) ∧
    ((p.lane s).awaitsBytes = true → bytesRead s after = .empty → (q.lane s).ended = false →
      q.text s = clean (textOf (wholePart (bytesRead s before).data.toList)) ∧
      (q.text s = clean (decode (bytesRead s before)) ↔
        clean (textOf (openLine (bytesRead s before).data.toList)) = "")) := by
  refine ⟨text_of_first_part s ran rest done fits, text_of_closed s ran rest done fits, ?_⟩
  intro idle silent unended
  have text := text_of_idle s ran rest done fits idle silent unended
  refine ⟨text, ?_⟩
  have cut := clean_textOf_append_eq_iff (openLine_wholePart (bytesRead s before).data.toList)
    (openLine (bytesRead s before).data.toList)
  rwa [wholePart_append_openLine, ← text, ← decode_eq_textOf] at cut

/-- A stream of which a whole line and the beginning of another have been read. -/
def openStream : List Action :=
  [.read .stdout "done\npart".toUTF8, .send .stdout, .receive .stdout, .readEnd .stderr,
    .hangUp .stderr]

/-- The cut of `openStream`. -/
def openCut : List Action := [.leave, .sweepEnd .stdout, .sweepEnd .stderr]

/-- What is left of `openStream`. -/
theorem text_openStream : ∃ p q, Pipeline.run? {} openStream = some p ∧
    p.run? (.cancel :: openCut) = some q ∧ q.finished = true ∧ q.text .stdout = "done" ∧
    q.text .stdout = clean (textOf (wholePart (bytesRead .stdout openStream).data.toList)) := by
  refine ⟨_, _, rfl, rfl, rfl, by decide +kernel, ?_⟩
  have fits : spaceFor (textsToEnd
      (bytesRead .stdout (openStream ++ .cancel :: openCut)).data.toList) ≤ maxOutputBytes := by
    decide +kernel
  exact ((text_of_cut .stdout rfl rfl rfl fits).2.2 rfl rfl rfl).1

/-- **An open line is lost.**  It is not true that the text of a stream that is cut short is the text
of all bytes that had been read: of `openStream` the last line is missing. -/
theorem open_line_lost : ¬∀ (s : Stream) (before after : List Action) (p q : Pipeline),
    Pipeline.run? {} before = some p → p.run? (.cancel :: after) = some q → q.finished = true →
    spaceFor (textsToEnd (bytesRead s (before ++ .cancel :: after)).data.toList) ≤ maxOutputBytes →
    q.text s = clean (decode (bytesRead s before)) := by
  intro kept
  have same := kept .stdout openStream openCut _ _ rfl rfl rfl (by decide +kernel)
  revert same
  decide +kernel

end Overseer.Capture
