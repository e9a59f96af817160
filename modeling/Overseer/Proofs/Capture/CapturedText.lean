import Overseer.Proofs.Capture.Drain
import Overseer.Proofs.Terminal.Cleaning

/-!
# The text of a stream

A stream is cut into lines, each line is decoded for itself and loses its newline, the lines go
through a channel into a buffer and get a newline each, and the buffer is cleaned.  The text that
comes out is the text of all bytes, decoded at once and cleaned (`text_of_endsInTime`): each stage
commutes with cutting at newlines, and the one newline too many, behind a last line that had none, is
cleaned away.

The bytes have to come to their end in time (`EndsInTime`), and their lines have to fit.  A last line
without a newline has to be in the channel in time, too (`SentInTime`): the end of the stream makes a line
of it, and when this finds its channel full, a drain that is told to end does not wait for it
(`blocked_line_lost`).
-/

namespace Overseer.Capture

open Overseer.Terminal Overseer.Text

variable {actions : List Action} {p : Pipeline} {s : Stream}

/-- Lines that were cut out of bytes are cleaned to the text of the bytes. -/
theorem clean_unlines_textsToEnd (bytes : List UInt8) :
    clean (.ofList (unlines (textsToEnd bytes))) = clean (textOf bytes) := by
  have whole : (textOf bytes).toList = unlines (texts bytes) ++ decodeBytes (openLine bytes) := by
    rw [toList_textOf, decodeBytes_eq_unlines]
  by_cases terminated : openLine bytes = []
  · have same : String.ofList (unlines (textsToEnd bytes)) = textOf bytes := by
      rw [← String.toList_inj, whole, textsToEnd, if_pos terminated, terminated]
      simp
    rw [same]
  · -- The open line has got a newline that the bytes do not have.
    have longer : String.ofList (unlines (textsToEnd bytes)) = (textOf bytes).push '\n' := by
      rw [← String.toList_inj, String.toList_push, whole, textsToEnd, if_neg terminated,
        unlines_append]
      simp [unlines]
    rw [longer, clean_push_newline]

/-- Bytes that are cut behind a newline have the same text without the rest exactly when nothing
shows of the rest. -/
theorem clean_textOf_append_eq_iff {part : List UInt8} (whole : openLine part = [])
    (rest : List UInt8) :
    clean (textOf part) = clean (textOf (part ++ rest)) ↔ clean (textOf rest) = "" := by
  have same := wholePart_append_openLine part
  rw [whole, List.append_nil] at same
  rcases wholePart_eq part with empty | ⟨front, ends⟩
  · rw [← same, empty, List.nil_append, textOf_nil, clean_empty]
    exact eq_comm
  · have cut : textOf part = (textOf front).push '\n' := by
      rw [← same, ends, textOf_append_newline, textOf_nil, String.append_empty]
    have joined : textOf (part ++ rest) = (textOf front).push '\n' ++ textOf rest := by
      rw [← textOf_append_newline, List.append_cons, ← ends, same]
    rw [cut, joined, clean_push_newline, eq_comm, clean_append_eq_iff]

theorem spaceFor_mono {few many : List String} (shorter : few <+: many) :
    spaceFor few ≤ spaceFor many := by
  obtain ⟨more, rfl⟩ := shorter
  rw [spaceFor_append]
  exact Nat.le_add_right _ _

/-- The text of a stream is the text of the bytes whose lines were taken, if these fit. -/
theorem text_of_linesTaken {bytes : List UInt8} (s : Stream)
    (ran : Pipeline.run? {} actions = some p) (taken : linesTaken s actions = textsToEnd bytes)
    (fits : spaceFor (textsToEnd bytes) ≤ maxOutputBytes) : p.text s = clean (textOf bytes) := by
  have buffer : (p.lane s).captured = .ofList (unlines (textsToEnd bytes)) := by
    rw [captured_eq s ran, taken, ← String.toList_inj, toList_foldl_appendLine _ _ (by simpa)]
    simp
  rw [Pipeline.text, buffer, clean_unlines_textsToEnd]

/-- A stream comes to its end in time: its reader sees the end before the drain is told to end. -/
def EndsInTime (s : Stream) (actions : List Action) : Prop :=
  ∃ front back, actions = front ++ .readEnd s :: back ∧ .cancel ∉ front

/-- The reader of a stream has its last line in the channel in time: before the drain is told to end, it
has seen the end of the stream and has no line left to send. -/
def SentInTime (s : Stream) (actions : List Action) : Prop :=
  ∃ front back m, actions = front ++ back ∧ .cancel ∉ front ∧
    Pipeline.run? {} front = some m ∧ (m.lane s).closed = true

/-- No line of a stream is left behind whose last line is sent in time. -/
theorem linesTaken_of_sentInTime (s : Stream) (ran : Pipeline.run? {} actions = some p)
    (done : p.finished = true) (inTime : SentInTime s actions) :
    linesTaken s actions = textsToEnd (bytesRead s actions).data.toList := by
  by_cases cut : .cancel ∈ actions
  · obtain ⟨front, back, m, rfl, uncut, reached, closed⟩ := inTime
    obtain ⟨wait, after, rfl⟩ :=
      List.append_of_mem ((List.mem_append.mp cut).resolve_left uncut)
    obtain ⟨m', reached', rest⟩ := Pipeline.run?_append_eq_some_iff.mp ran
    obtain rfl : m = m' := Option.some.inj (reached.symm.trans reached')
    -- Behind its end a stream has no bytes, so all its lines were sent before the cancellation.
    have quiet : bytesRead s (wait ++ .cancel :: after) = .empty :=
      (Lane.quiet_of_ended (Pipeline.lane_run s rest) (by simp_all [Lane.closed])).2.2
    have bytes : bytesRead s (front ++ (wait ++ .cancel :: after)) = bytesRead s front := by
      rw [bytesRead_append, quiet, ByteArray.append_empty]
    have below := (linesTaken_prefix_linesSent s ran).trans (linesSent_prefix_textsToEnd s ran)
    have above : linesSent s front <+: linesTaken s (front ++ (wait ++ .cancel :: after)) := by
      rw [← List.append_assoc] at ran ⊢
      exact (linesSent_prefix_append s wait reached).trans (linesSent_prefix_linesTaken s ran done)
    rw [linesSent_of_closed s reached closed] at above
    rw [bytes] at below ⊢
    exact below.eq_of_length_le above.length_le
  · exact linesTaken_of_uncut s ran done cut

/-- A reader that sees the end of its stream has sent all whole lines by then. -/
theorem linesSent_of_readEnd {front back : List Action} (s : Stream)
    (ran : Pipeline.run? {} (front ++ .readEnd s :: back) = some p) :
    linesSent s front = texts (bytesRead s (front ++ .readEnd s :: back)).data.toList := by
  obtain ⟨m, reached, rest⟩ := Pipeline.run?_append_eq_some_iff.mp ran
  obtain ⟨ok, onward⟩ := Pipeline.run?_cons_eq_some_iff.mp rest
  obtain ⟨running, noBacklog⟩ : (m.lane s).ended = false ∧ (m.lane s).backlog = [] := by
    simpa [Pipeline.enabled, Lane.awaitsBytes] using ok
  have ended : ((m.perform (.readEnd s)).lane s).ended = true := by
    simp [Pipeline.perform, Lane.readEnd]
  have quiet : bytesRead s (.readEnd s :: back) = .empty := by
    have later : bytesRead s back = .empty :=
      (Lane.quiet_of_ended (Pipeline.lane_run s onward) ended).2.2
    simpa [bytesRead, steps, Action.step?, Lane.bytesRead] using later
  have sent := linesSent_append_backlog s reached
  rw [noBacklog, List.append_nil, running, textsSoFar, if_neg Bool.false_ne_true] at sent
  rw [sent, bytesRead_append, quiet, ByteArray.append_empty]

/-- Of a stream that comes to its end in time the drain takes all lines, or all but an open line at the
end. -/
theorem linesTaken_of_endsInTime (s : Stream) (ran : Pipeline.run? {} actions = some p)
    (done : p.finished = true) (inTime : EndsInTime s actions) :
    linesTaken s actions = textsToEnd (bytesRead s actions).data.toList ∨
      linesTaken s actions = texts (bytesRead s actions).data.toList := by
  by_cases cut : .cancel ∈ actions
  · obtain ⟨front, back, rfl, uncut⟩ := inTime
    obtain ⟨wait, after, rfl⟩ : ∃ wait after, back = wait ++ .cancel :: after :=
      List.append_of_mem (by simpa [uncut] using cut)
    have below := (linesTaken_prefix_linesSent s ran).trans (linesSent_prefix_textsToEnd s ran)
    have above : texts (bytesRead s (front ++ .readEnd s :: (wait ++ .cancel :: after))).data.toList <+:
        linesTaken s (front ++ .readEnd s :: (wait ++ .cancel :: after)) := by
      rw [← linesSent_of_readEnd s ran]
      obtain ⟨m, reached, -⟩ := Pipeline.run?_append_eq_some_iff.mp ran
      rw [← List.cons_append, ← List.append_assoc] at ran ⊢
      exact (linesSent_prefix_append s _ reached).trans (linesSent_prefix_linesTaken s ran done)
    -- Between the whole lines and all lines there is at most one line, the open one.
    obtain ⟨more, taken⟩ := above
    rw [← taken, textsToEnd] at below ⊢
    have last := (List.prefix_append_right_inj _).mp below
    split_ifs at last ⊢ with whole
    · exact .inl (by rw [List.prefix_nil.mp last])
    · rcases List.prefix_cons_iff.mp last with rfl | ⟨rest, rfl, nothing⟩
      · exact .inr (List.append_nil _)
      · exact .inl (by rw [List.prefix_nil.mp nothing])
  · exact .inl (linesTaken_of_uncut s ran done cut)

/-- **Capture line by line is decoding at once.**  However the bytes of a stream come in, and whatever
the other stream does meanwhile: when the stream comes to its end in time and its lines fit, its text
is the text of all its bytes, cleaned.  This takes for granted that an open line at the end is in the
channel before the drain is told to end; when it is not, it is the only part that may be missing. -/
theorem text_of_endsInTime (s : Stream) (ran : Pipeline.run? {} actions = some p)
    (done : p.finished = true) (inTime : EndsInTime s actions)
    (fits : spaceFor (textsToEnd (bytesRead s actions).data.toList) ≤ maxOutputBytes) :
    (openLine (bytesRead s actions).data.toList = [] ∨ SentInTime s actions →
      p.text s = clean (decode (bytesRead s actions))) ∧
    (p.text s = clean (decode (bytesRead s actions)) ∨
      p.text s = clean (textOf (wholePart (bytesRead s actions).data.toList))) := by
  have either := linesTaken_of_endsInTime s ran done inTime
  rw [decode_eq_textOf]
  constructor
  · intro complete
    refine text_of_linesTaken s ran ?_ fits
    rcases complete with terminated | sent
    · simpa [textsToEnd, terminated] using either
    · exact linesTaken_of_sentInTime s ran done sent
  · refine either.imp (fun all => text_of_linesTaken s ran all fits) fun whole => ?_
    rw [← textsToEnd_wholePart] at whole
    refine text_of_linesTaken s ran whole ?_
    rw [textsToEnd_wholePart]
    exact (spaceFor_mono (List.prefix_append _ _)).trans fits

/-- A stream in which a newline breaks off a character, a line ends in a return, a line is empty and
the last line has no newline.  It is read in three pieces, while the other stream is open. -/
def brokenLines : List Action := [
  .read .stdout ⟨#[0xE2]⟩, .read .stderr "x\ny".toUTF8, .read .stdout ⟨#[0x82, 0x0A, 0xAC]⟩,
  .send .stdout, .send .stderr, .read .stdout ⟨#[0x0D, 0x0A, 0x0A, 0x61]⟩, .receive .stdout,
  .send .stdout, .send .stdout, .readEnd .stdout, .receive .stderr, .send .stdout]

/-- The end of `brokenLines`, with the drain cut short. -/
def cutBehind : List Action := [
  .cancel, .receive .stdout, .leave, .receive .stdout, .receive .stdout, .sweepEnd .stdout,
  .sweepEnd .stderr]

/-- The text of `brokenLines`. -/
theorem text_brokenLines : ∃ p, Pipeline.run? {} (brokenLines ++ cutBehind) = some p ∧
    p.finished = true ∧ EndsInTime .stdout (brokenLines ++ cutBehind) ∧
    SentInTime .stdout (brokenLines ++ cutBehind) ∧
    p.text .stdout = clean (decode ⟨#[0xE2, 0x82, 0x0A, 0xAC, 0x0D, 0x0A, 0x0A, 0x61]⟩) := by
  have inTime : EndsInTime .stdout (brokenLines ++ cutBehind) :=
    ⟨brokenLines.take 9, .receive .stderr :: .send .stdout :: cutBehind, rfl, by simp [brokenLines]⟩
  have sent : SentInTime .stdout (brokenLines ++ cutBehind) :=
    ⟨brokenLines, cutBehind, _, rfl, by simp [brokenLines], rfl, rfl⟩
  have bytes : bytesRead .stdout (brokenLines ++ cutBehind) =
      ⟨#[0xE2, 0x82, 0x0A, 0xAC, 0x0D, 0x0A, 0x0A, 0x61]⟩ := by decide +kernel
  rw [← bytes]
  refine ⟨_, rfl, rfl, inTime, sent, ?_⟩
  exact (text_of_endsInTime .stdout rfl rfl inTime (by decide +kernel)).1 (.inr sent)

/-! ## A line that finds its channel full -/

/-- The reader of the standard output takes in bytes at once, fills its channel and comes to the end. -/
def filling (bytes : ByteArray) : List Action :=
  .read .stdout bytes :: (List.replicate channelCapacity (.send .stdout) ++ [.readEnd .stdout])

/-- The drain is told to end and takes what is in a full channel of the standard output. -/
def emptying : List Action :=
  .cancel :: .leave :: (List.replicate channelCapacity (.receive .stdout) ++
    [.sweepEnd .stdout, .sweepEnd .stderr])

/-- A channel with room for them takes the next lines of its reader. -/
theorem run?_sends (lane : Lane) (lines rest : List String)
    (room : lane.queue.length + lines.length ≤ channelCapacity) :
    Pipeline.run? { stdout := { lane with backlog := lines ++ rest } }
        (List.replicate lines.length (.send .stdout)) =
      some { stdout := { lane with backlog := rest, queue := lane.queue ++ lines } } := by
  induction lines generalizing lane with
  | nil => simp [Pipeline.run?]
  | cons line lines ih =>
      rw [List.length_cons] at room
      refine Pipeline.run?_cons_eq_some_iff.mpr ⟨?_, ?_⟩
      · have free : lane.queue.length < channelCapacity := by omega
        simp [Pipeline.enabled, Pipeline.lane, free]
      · have left : (lane.queue ++ [line]).length + lines.length ≤ channelCapacity := by
          rw [List.length_append, List.length_singleton]
          omega
        simpa [Pipeline.perform, Pipeline.updateLane, Lane.send] using
          ih { lane with queue := lane.queue ++ [line] } left

/-- A sweep takes the lines of a channel one after the other. -/
theorem run?_receives (lane : Lane) (lines : List String) :
    Pipeline.run? { stdout := { lane with queue := lines }, phase := .sweeping .stdout, cancelled := true }
        (List.replicate lines.length (.receive .stdout)) =
      some { stdout := { lane with queue := [], captured := lines.foldl appendLine lane.captured },
             phase := .sweeping .stdout, cancelled := true } := by
  induction lines generalizing lane with
  | nil => rfl
  | cons line lines ih =>
      refine Pipeline.run?_cons_eq_some_iff.mpr ⟨rfl, ?_⟩
      exact ih { lane with captured := appendLine lane.captured line }

/-- Behind as many whole lines as the channel takes, an open line waits in front of it. -/
theorem run?_filling {bytes : ByteArray}
    (full : (texts bytes.data.toList).length = channelCapacity) :
    Pipeline.run? {} (filling bytes) =
      some { stdout := { backlog := textsToEnd (openLine bytes.data.toList), ended := true,
                         queue := texts bytes.data.toList } } := by
  have clear : newline ∉ LineReader.unfinished {} := by simp [LineReader.unfinished]
  have lines : (LineReader.feed {} bytes).2 = texts bytes.data.toList :=
    LineReader.lines_feed {} bytes clear
  have reader : (LineReader.feed {} bytes).1.unfinished = openLine bytes.data.toList :=
    LineReader.unfinished_feed {} bytes clear
  have finish : (LineReader.feed {} bytes).1.finish = textsToEnd (openLine bytes.data.toList) := by
    rw [LineReader.finish_eq _ (reader ▸ newline_notMem_openLine _), reader]
  have readable : bytes.isEmpty = false := by
    refine Bool.eq_false_iff.mpr fun empty => ?_
    rw [show bytes.data.toList = [] from (LineReader.isEmpty_pending_iff ⟨bytes⟩).mp empty] at full
    contradiction
  have sent := run?_sends { reader := (LineReader.feed {} bytes).1 } (texts bytes.data.toList) []
    (by simp [full])
  rw [full, List.append_nil, List.nil_append] at sent
  have begins : Pipeline.perform {} (.read .stdout bytes) =
      { stdout := { reader := (LineReader.feed {} bytes).1, backlog := texts bytes.data.toList } } := by
    simp [Pipeline.perform, Pipeline.updateLane, Lane.read, lines]
  refine Pipeline.run?_cons_eq_some_iff.mpr ⟨?_, begins ▸ Pipeline.run?_append_eq_some_iff.mpr ⟨_, sent, ?_⟩⟩
  · simp [Pipeline.enabled, Pipeline.lane, Lane.awaitsBytes, readable]
  · refine Pipeline.run?_cons_eq_some_iff.mpr ⟨rfl, ?_⟩
    simp [Pipeline.run?, Pipeline.perform, Pipeline.updateLane, Lane.readEnd, finish]

/-- The drain leaves behind what waits in front of the channel. -/
theorem run?_emptying {lines : List String} (full : lines.length = channelCapacity)
    (waiting : List String) :
    Pipeline.run? { stdout := { backlog := waiting, ended := true, queue := lines } } emptying =
      some { stdout := { backlog := waiting, ended := true, captured := lines.foldl appendLine "" },
             phase := .done, cancelled := true } := by
  have taken := run?_receives { backlog := waiting, ended := true } lines
  rw [full] at taken
  refine Pipeline.run?_cons_eq_some_iff.mpr ⟨rfl, Pipeline.run?_cons_eq_some_iff.mpr ⟨rfl, ?_⟩⟩
  exact Pipeline.run?_append_eq_some_iff.mpr ⟨_, taken, rfl⟩

theorem bytesRead_filling_append_emptying (bytes : ByteArray) :
    bytesRead .stdout (filling bytes ++ emptying) = bytes := by
  have silent : bytesRead .stdout (filling bytes ++ emptying).tail = .empty := by
    refine bytesRead_eq_empty fun a member => ?_
    simp only [filling, emptying, List.cons_append, List.tail_cons, List.mem_append, List.mem_cons,
      List.mem_replicate, List.not_mem_nil, or_false] at member
    obtain (⟨-, rfl⟩ | rfl) | rfl | rfl | ⟨-, rfl⟩ | rfl | rfl := member <;> rfl
  exact (congrArg (bytes ++ ·) silent).trans ByteArray.append_empty

/-- **An open line in front of a full channel is lost**, even though the stream has come to its end. -/
theorem text_of_full {bytes : ByteArray} (full : (texts bytes.data.toList).length = channelCapacity)
    (fits : spaceFor (texts bytes.data.toList) ≤ maxOutputBytes) :
    ∃ m p, Pipeline.run? {} (filling bytes) = some m ∧ m.enabled (.send .stdout) = false ∧
      m.run? emptying = some p ∧ p.finished = true ∧
      p.text .stdout = clean (textOf (wholePart bytes.data.toList)) := by
  refine ⟨_, _, run?_filling full, ?_, run?_emptying full _, rfl, ?_⟩
  · simp [Pipeline.enabled, Pipeline.lane, full]
  · have buffer : String.ofList (unlines (textsToEnd (wholePart bytes.data.toList))) =
        (texts bytes.data.toList).foldl appendLine "" := by
      rw [textsToEnd_wholePart, ← String.toList_inj, toList_foldl_appendLine _ _ (by simpa)]
      simp
    rw [← clean_unlines_textsToEnd, buffer]
    rfl

/-- As many lines as a channel takes, and an open one. -/
def flood : ByteArray :=
  ⟨((List.replicate channelCapacity [0x61, newline]).flatten ++ [0x7A]).toArray⟩

theorem lines_flood (n : Nat) :
    wholeLines ((List.replicate n [0x61, newline]).flatten ++ [0x7A]) = List.replicate n [0x61] ∧
      openLine ((List.replicate n [0x61, newline]).flatten ++ [0x7A]) = [0x7A] := by
  induction n with
  | zero => decide
  | succ n ih =>
      have first : newline ∉ [0x61] := by decide
      have next : (List.replicate (n + 1) [0x61, newline]).flatten ++ [0x7A] =
          [0x61] ++ newline :: ((List.replicate n [0x61, newline]).flatten ++ [0x7A]) := rfl
      rw [next, wholeLines_append_newline first, openLine_append_newline first, ih.1, ih.2]
      exact ⟨rfl, rfl⟩

/-- **The end of a stream in time is not enough.**  It is not true that a stream whose end is seen before
the drain is told to end loses nothing: `flood` fills the channel, and its open line has to wait. -/
theorem blocked_line_lost : ¬∀ (s : Stream) (actions : List Action) (p : Pipeline),
    Pipeline.run? {} actions = some p → p.finished = true → EndsInTime s actions →
    spaceFor (textsToEnd (bytesRead s actions).data.toList) ≤ maxOutputBytes →
    p.text s = clean (decode (bytesRead s actions)) := by
  intro kept
  obtain ⟨whole, last⟩ := lines_flood channelCapacity
  have lines : texts flood.data.toList = List.replicate channelCapacity (textOf [0x61]) := by
    rw [texts, flood, List.toList_toArray, whole, List.map_replicate]
  have opened : openLine flood.data.toList = [0x7A] := last
  have fits : spaceFor (textsToEnd flood.data.toList) ≤ maxOutputBytes := by
    rw [textsToEnd, lines, opened]
    decide +kernel
  obtain ⟨m, p, fills, -, empties, done, text⟩ := text_of_full
    (by rw [lines, List.length_replicate]) ((spaceFor_mono (List.prefix_append _ _)).trans fits)
  have inTime : EndsInTime .stdout (filling flood ++ emptying) :=
    ⟨.read .stdout flood :: List.replicate channelCapacity (.send .stdout), emptying, by simp [filling],
      by simp [List.mem_replicate]⟩
  have same := kept .stdout _ p (Pipeline.run?_append_eq_some_iff.mpr ⟨m, fills, empties⟩) done inTime
    (by rwa [bytesRead_filling_append_emptying])
  have cut := clean_textOf_append_eq_iff (openLine_wholePart flood.data.toList) [0x7A]
  rw [← opened, wholePart_append_openLine, ← decode_eq_textOf, ← text, opened] at cut
  rw [bytesRead_filling_append_emptying] at same
  exact absurd (cut.mp same) (by decide +kernel)

end Overseer.Capture
