import Overseer.Proofs.Capture.Sweeping

/-!
# What the drain brings home

The drain takes lines out of two bounded channels in an order that nobody knows, may be told to end
at any time, and sweeps both channels before it does.  `captured_of_finished` says what its buffers
hold then, for every run: of each stream the lines of a beginning of that stream, in order, each of
them once.  This beginning holds all that was in the channel when the drain was told to end, and it is
the whole stream when it was not.
-/

namespace Overseer.Capture

open Overseer.Text

variable {actions before after : List Action} {p : Pipeline} {s : Stream}

/-- The lane of a stream in a run from the start. -/
theorem lane_run_start (s : Stream) (ran : Pipeline.run? {} actions = some p) :
    Lane.Run {} (steps s actions) (p.lane s) := by
  have run := Pipeline.lane_run s ran
  cases s <;> exact run

/-- The lines of the bytes read, as far as the reader has come. -/
theorem linesSent_append_backlog (s : Stream) (ran : Pipeline.run? {} actions = some p) :
    linesSent s actions ++ (p.lane s).backlog =
      textsSoFar (p.lane s).ended (bytesRead s actions).data.toList := by
  have run := lane_run_start s ran
  have clear : newline ∉ LineReader.unfinished {} := by simp [LineReader.unfinished]
  have books := Lane.backlog_append_handed run
  rw [Lane.handed_eq run rfl clear] at books
  simpa [linesSent, bytesRead, LineReader.unfinished] using books.symm

theorem linesTaken_append_queue (s : Stream) (ran : Pipeline.run? {} actions = some p) :
    linesTaken s actions ++ (p.lane s).queue = linesSent s actions := by
  simpa [linesTaken, linesSent] using (Lane.queue_append_sent (lane_run_start s ran)).symm

theorem linesTaken_prefix_linesSent (s : Stream) (ran : Pipeline.run? {} actions = some p) :
    linesTaken s actions <+: linesSent s actions :=
  ⟨_, linesTaken_append_queue s ran⟩

theorem linesSent_prefix_textsToEnd (s : Stream) (ran : Pipeline.run? {} actions = some p) :
    linesSent s actions <+: textsToEnd (bytesRead s actions).data.toList := by
  have sent : linesSent s actions <+:
      textsSoFar (p.lane s).ended (bytesRead s actions).data.toList :=
    ⟨_, linesSent_append_backlog s ran⟩
  exact sent.trans (textsSoFar_prefix_textsToEnd _ _)

theorem captured_eq (s : Stream) (ran : Pipeline.run? {} actions = some p) :
    (p.lane s).captured = (linesTaken s actions).foldl appendLine "" :=
  Lane.captured_eq_foldl (lane_run_start s ran)

/-- A channel that is closed has had all lines of the stream in it. -/
theorem linesSent_of_closed (s : Stream) (ran : Pipeline.run? {} actions = some p)
    (closed : (p.lane s).closed = true) :
    linesSent s actions = textsToEnd (bytesRead s actions).data.toList := by
  obtain ⟨ended, noBacklog⟩ : (p.lane s).ended = true ∧ (p.lane s).backlog = [] := by
    simpa [Lane.closed] using closed
  have sent := linesSent_append_backlog s ran
  rw [noBacklog, List.append_nil, ended] at sent
  rw [sent, textsSoFar, if_pos rfl]

/-- **What is in a channel at a cancellation is not lost.** -/
theorem linesSent_prefix_linesTaken (s : Stream)
    (ran : Pipeline.run? {} (before ++ .cancel :: after) = some p) (done : p.finished = true) :
    linesSent s before <+: linesTaken s (before ++ .cancel :: after) := by
  obtain ⟨m, reached, rest⟩ := Pipeline.run?_append_eq_some_iff.mp ran
  have cut : linesTaken s (before ++ .cancel :: after) =
      linesTaken s before ++ (m.lane s).taken (steps s (.cancel :: after)) := by
    rw [linesTaken, steps_append, Lane.taken_append (lane_run_start s reached), linesTaken]
  rw [cut, ← linesTaken_append_queue s reached]
  cases behind : m.swept s with
  | false =>
      rw [Pipeline.taken_of_sweep rest behind (Pipeline.swept_of_finished done s)]
      exact (List.prefix_append_right_inj _).mpr (List.prefix_append _ _)
  | true =>
      -- The drain left on its own before: then there was nothing left to take.
      have uncut : m.cancelled = false := by
        simpa [Pipeline.enabled] using (Pipeline.run?_cons_eq_some_iff.mp rest).1
      have left : m.phase ≠ .merging := by
        intro inside
        cases s <;> simp [Pipeline.swept, inside] at behind
      rw [(Pipeline.closed_of_left reached left uncut s).2, List.append_nil]
      exact List.prefix_append _ _

/-- What was sent early on is sent in the whole run. -/
theorem linesSent_prefix_append (s : Stream) (back : List Action)
    (ran : Pipeline.run? {} actions = some p) :
    linesSent s actions <+: linesSent s (actions ++ back) := by
  rw [linesSent, linesSent, steps_append, Lane.sent_append (lane_run_start s ran)]
  exact List.prefix_append _ _

/-- **Without a cancellation nothing is left behind.** -/
theorem linesTaken_of_uncut (s : Stream) (ran : Pipeline.run? {} actions = some p)
    (done : p.finished = true) (uncut : .cancel ∉ actions) :
    linesTaken s actions = textsToEnd (bytesRead s actions).data.toList := by
  have left : p.phase ≠ .merging := by
    intro inside
    simp [Pipeline.finished, inside] at done
  have notCancelled : p.cancelled = false := by
    rw [← Bool.not_eq_true, Pipeline.cancelled_iff ran]
    rintro (start | cut)
    · exact absurd start (by decide)
    · exact uncut cut
  obtain ⟨closed, empty⟩ := Pipeline.closed_of_left ran left notCancelled s
  have taken := linesTaken_append_queue s ran
  rw [empty, List.append_nil] at taken
  rw [taken, linesSent_of_closed s ran closed]

/-- **The drain loses, doubles, reorders and mixes nothing.**  In every run to the end, the buffer of
a stream holds the lines taken out of its channel, as far as they fit; these are a beginning of the
lines sent, and those a beginning of the lines of that stream.  Every line sent before a cancellation
is among the lines taken, and without a cancellation all lines of the stream are. -/
theorem captured_of_finished (s : Stream) (ran : Pipeline.run? {} actions = some p)
    (done : p.finished = true) :
    (p.lane s).captured = (linesTaken s actions).foldl appendLine "" ∧
      linesTaken s actions <+: linesSent s actions ∧
      linesSent s actions <+: textsToEnd (bytesRead s actions).data.toList ∧
      (∀ before after, actions = before ++ .cancel :: after →
        linesSent s before <+: linesTaken s actions) ∧
      (.cancel ∉ actions →
        linesTaken s actions = textsToEnd (bytesRead s actions).data.toList) := by
  refine ⟨captured_eq s ran, linesTaken_prefix_linesSent s ran,
    linesSent_prefix_textsToEnd s ran, ?_, ?_⟩
  · rintro before after rfl
    exact linesSent_prefix_linesTaken s ran done
  · exact linesTaken_of_uncut s ran done

/-- A run with both streams at work.  The drain is told to end while two lines of the standard output
are still in the channel and a line is being written. -/
def cutRun : List Action := [
  .read .stdout "a\nb\nc".toUTF8, .read .stderr "x\n".toUTF8, .send .stdout, .send .stderr,
  .receive .stderr, .send .stdout, .cancel, .leave, .receive .stdout, .receive .stdout,
  .sweepEnd .stdout, .sweepEnd .stderr]

/-- The end of `cutRun`. -/
theorem captured_of_cutRun : ∃ p, Pipeline.run? {} cutRun = some p ∧ p.finished = true ∧
    linesTaken .stdout cutRun = ["a", "b"] ∧ linesTaken .stderr cutRun = ["x"] ∧
    (p.lane .stdout).captured = (linesTaken .stdout cutRun).foldl appendLine "" ∧
    (p.lane .stderr).captured = (linesTaken .stderr cutRun).foldl appendLine "" := by
  refine ⟨_, rfl, rfl, rfl, rfl, ?_, ?_⟩
  · exact (captured_of_finished .stdout rfl rfl).1
  · exact (captured_of_finished .stderr rfl rfl).1

end Overseer.Capture
