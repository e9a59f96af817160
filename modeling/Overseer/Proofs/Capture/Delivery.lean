import Overseer.Proofs.Capture.Plumbing

/-!
# Everything that a child writes is delivered

The parties between a child and the buffers wait for each other, but never all of them at once.  When the
capture is at rest, the reader of a stream that has not ended waits for bytes: if there are some in its pipe
it may read them, and if both pipes are empty, nothing keeps the child from going on (`exists_enabled`).

A run cannot go on forever, either: every move makes the system lighter (`burden_perform_lt`), since a
byte weighs less in the pipe than with the child, and a line less than the bytes that it was cut from.

So every run comes to an end, with all lines of both streams in their buffers (`run_delivers`).
-/

namespace Overseer.Capture

/-! ## Lines are fewer than bytes -/

namespace LineReader

theorem size_foldl_push_le (bytes : List UInt8) (r : LineReader) :
    (bytes.foldl push (r, #[])).2.size ≤ bytes.length := by
  induction bytes generalizing r with
  | nil => simp
  | cons b rest ih =>
      rw [List.foldl_cons, List.length_cons]
      by_cases ends : b = newline
      · subst ends
        rw [push_newline, foldl_push_eq, Array.size_append]
        have later := ih {}
        simp only [List.size_toArray, List.length_cons, List.length_nil]
        omega
      · rw [push_of_ne r ends]
        exact Nat.le_succ_of_le (ih _)

/-- A piece of a stream ends at most as many lines as it has bytes. -/
theorem length_lines_feed_le (r : LineReader) (bytes : ByteArray) :
    (r.feed bytes).2.length ≤ bytes.size := by
  have bound := size_foldl_push_le bytes.data.toList r
  rw [Array.foldl_toList, Array.length_toList, ByteArray.size_data] at bound
  rw [feed, Array.length_toList]
  exact bound

theorem length_finish_le (r : LineReader) : r.finish.length ≤ 1 := by
  unfold finish
  split <;> simp

end LineReader

namespace Plumbing

variable {rules : PipeRules} {q last : Plumbing} {m : Move} {moves : List Move} {s : Stream}
variable {writes : Writes}

/-! ## Somebody can always go on -/

/-- A reader that waits for bytes can read what is in its pipe. -/
theorem exists_enabled_read (waits : (q.capture.lane s).awaitsBytes = true)
    (some : q.piped s ≠ []) : ∃ m, q.enabled rules m = true := by
  refine ⟨.capture (.read s ⟨(q.piped s).toArray⟩), enabled_capture_iff.mpr ⟨?_, ?_⟩⟩
  · have size : (ByteArray.mk (q.piped s).toArray).isEmpty = false := by
      simpa [ByteArray.isEmpty, ByteArray.size, Bool.eq_false_iff] using some
    simp [Pipeline.enabled, waits, size]
  · simp [supplies]

/-- A child that runs can go on while its pipes are empty, whatever it has to do next. -/
theorem exists_enabled_of_empty (alive : q.alive = true) (empty : ∀ s, q.piped s = []) :
    ∃ m, q.enabled rules m = true := by
  cases next : q.unwritten with
  | nil => exact ⟨.exit, enabled_exit_iff.mpr ⟨alive, next⟩⟩
  | cons write later =>
      obtain ⟨t, bytes⟩ := write
      cases bytes with
      | nil => exact ⟨.nextWrite, enabled_nextWrite_iff.mpr ⟨t, later, next, alive⟩⟩
      | cons b rest =>
          -- As much as the pipe holds is the whole of a write that has to go in as a whole.
          refine ⟨.write (min (b :: rest).length rules.capacity), ?_⟩
          refine enabled_write_iff.mpr ⟨t, b :: rest, later, next, alive, ?_, ?_, ?_, ?_⟩
          · exact Nat.lt_min.mpr ⟨Nat.succ_pos _, rules.capacity_pos⟩
          · exact Nat.min_le_left _ _
          · rw [empty t, List.length_nil, Nat.zero_add]
            exact Nat.min_le_right _ _
          · intro few
            exact Nat.min_eq_left (Nat.le_trans few rules.atomic_le)

/-- **As long as the drain has not finished, somebody can take a step.** -/
theorem Accounts.exists_enabled (accounts : Accounts writes moves q)
    (open_ : q.capture.finished = false) : ∃ m, q.enabled rules m = true := by
  cases idle : q.capture.next? with
  | some a =>
      obtain ⟨ok, own⟩ := Pipeline.next?_eq_some idle
      refine ⟨.capture a, enabled_capture_iff.mpr ⟨ok, ?_⟩⟩
      cases a with
      | read t bytes => cases own
      | readEnd t => cases own
      | cancel => cases own
      | _ => rfl
  | none =>
      have waits : ∀ s, (q.capture.lane s).ended = false →
          (q.capture.lane s).awaitsBytes = true :=
        fun s => Pipeline.awaitsBytes_of_idle accounts.ran accounts.uncut idle
      cases alive : q.alive with
      | true =>
          -- No stream has ended before the child, so both readers wait.
          by_cases empty : ∀ s, q.piped s = []
          · exact exists_enabled_of_empty alive empty
          · obtain ⟨s, some⟩ := not_forall.mp empty
            refine exists_enabled_read (waits s ?_) some
            rw [Bool.eq_false_iff]
            intro ended
            simp [(accounts.ended s ended).1] at alive
      | false =>
          obtain ⟨s, unended⟩ : ∃ s, (q.capture.lane s).ended = false := by
            by_contra none
            have all : ∀ s, (q.capture.lane s).ended = true := by simpa using none
            rw [(Pipeline.finished_iff_ended accounts.ran accounts.uncut idle).mpr all] at open_
            cases open_
          by_cases empty : q.piped s = []
          · refine ⟨.capture (.readEnd s), enabled_capture_iff.mpr ⟨waits s unended, ?_⟩⟩
            simp [supplies, alive, empty]
          · exact exists_enabled_read (waits s unended) empty

/-! ## What has been delivered in the end -/

/-- **When the drain has finished, everything has been delivered**: both channels are closed and known to
be, and every line of what the child has written has gone into the buffer of its stream. -/
structure Delivered (writes : Writes) (moves : List Move) (q : Plumbing) (s : Stream) : Prop where
  closed : (q.capture.lane s).closed = true
  noticed : (q.capture.lane s).listening = false
  empty : (q.capture.lane s).queue = []
  taken : linesTaken s (actions moves) = textsToEnd (writes.bytesOf s)
  captured : (q.capture.lane s).captured = (textsToEnd (writes.bytesOf s)).foldl appendLine ""

namespace Accounts

theorem left_of_finished (done : q.capture.finished = true) : q.capture.phase ≠ .merging := by
  intro inside
  simp [Pipeline.finished, inside] at done

theorem listening_of_finished (accounts : Accounts writes moves q)
    (done : q.capture.finished = true) (s : Stream) : (q.capture.lane s).listening = false := by
  have may := Pipeline.leavesForAReason_start.run accounts.ran (left_of_finished done)
  have uncut := Pipeline.uncancelled_of_run accounts.ran accounts.uncut
  have deaf : q.capture.stdout.listening = false ∧ q.capture.stderr.listening = false := by
    simpa [Pipeline.mayLeave, uncut] using may
  cases s with
  | stdout => exact deaf.1
  | stderr => exact deaf.2

theorem delivered (accounts : Accounts writes moves q) (done : q.capture.finished = true)
    (s : Stream) : Delivered writes moves q s := by
  obtain ⟨closed, empty⟩ := Pipeline.closed_of_left accounts.ran (left_of_finished done)
    (Pipeline.uncancelled_of_run accounts.ran accounts.uncut) s
  -- A stream that has ended has nothing in its pipe, and its child has nothing left to write.
  obtain ⟨gone, dry⟩ := accounts.ended s (Bool.and_eq_true_iff.mp closed).1
  have bytes := accounts.bytes s
  rw [dry, accounts.gone gone, Writes.bytesOf_nil, List.append_nil, List.append_nil] at bytes
  have taken : linesTaken s (actions moves) = textsToEnd (writes.bytesOf s) := by
    rw [bytes, linesTaken_of_uncut s accounts.ran done accounts.uncut]
  refine ⟨closed, accounts.listening_of_finished done s, empty, taken, ?_⟩
  rw [captured_eq s accounts.ran, taken]

/-- When the drain has finished, nobody takes a step any more. -/
theorem not_enabled_of_finished (accounts : Accounts writes moves q)
    (done : q.capture.finished = true) (m : Move) : q.enabled rules m = false := by
  have closed := fun s => (accounts.delivered done s).closed
  have ended : ∀ s, (q.capture.lane s).ended = true := fun s =>
    (Bool.and_eq_true_iff.mp (closed s)).1
  have gone := (accounts.ended .stdout (ended .stdout)).1
  have phase : q.capture.phase = .done := by simpa [Pipeline.finished] using done
  rw [Bool.eq_false_iff]
  intro ok
  cases m with
  | write count =>
      obtain ⟨_, _, _, _, alive, -⟩ := enabled_write_iff.mp ok
      simp [gone] at alive
  | nextWrite =>
      obtain ⟨_, _, _, alive⟩ := enabled_nextWrite_iff.mp ok
      simp [gone] at alive
  | exit => simp [(enabled_exit_iff.mp ok).1] at gone
  | capture a =>
      obtain ⟨ok, given⟩ := enabled_capture_iff.mp ok
      cases a with
      | cancel => cases given
      | _ => simp_all [Pipeline.enabled, Pipeline.takes, Lane.awaitsBytes]

end Accounts

end Plumbing

/-! ## No run goes on forever -/

/-- What the writes of a child weigh. -/
def Writes.weight : Writes → Nat
  | [] => 0
  | (_, bytes) :: later => 4 * bytes.length + 1 + Writes.weight later

theorem Writes.weight_cons (t : Stream) (bytes : List UInt8) (later : Writes) :
    Writes.weight ((t, bytes) :: later) = 4 * bytes.length + 1 + later.weight :=
  rfl

/-- The bytes of all writes, counted. -/
def Writes.size : Writes → Nat
  | [] => 0
  | (_, bytes) :: later => bytes.length + Writes.size later

theorem Writes.weight_eq (writes : Writes) : writes.weight = 4 * writes.size + writes.length := by
  induction writes with
  | nil => rfl
  | cons w later ih =>
      obtain ⟨t, bytes⟩ := w
      rw [Writes.weight_cons, ih, Writes.size, List.length_cons]
      omega

namespace Lane

/-- What weighs on a lane: its lines, and the end of the stream as long as it has not been seen. -/
def burden (lane : Lane) : Nat := lane.weight + 3 * (!lane.ended).toNat

/-- A reader that reads has no lines to send but the new ones. -/
theorem weight_eq_of_backlog {lane next : Lane} (idle : lane.backlog = [])
    (queue : next.queue = lane.queue) (listening : next.listening = lane.listening) :
    next.weight = 2 * next.backlog.length + lane.weight := by
  simp only [weight, idle, queue, listening, List.length_nil]
  omega

/-- A piece of a stream brings no more lines than bytes. -/
theorem burden_read_le {lane : Lane} (idle : lane.backlog = []) (bytes : ByteArray) :
    (lane.read bytes).burden ≤ lane.burden + 2 * bytes.size := by
  have weight : (lane.read bytes).weight = 2 * (lane.reader.feed bytes).2.length + lane.weight :=
    weight_eq_of_backlog idle rfl rfl
  have ended : (lane.read bytes).ended = lane.ended := rfl
  have lines := LineReader.length_lines_feed_le lane.reader bytes
  rw [burden, burden, weight, ended]
  omega

/-- The end of a stream brings one line at most. -/
theorem burden_readEnd_lt {lane : Lane} (waits : lane.awaitsBytes = true) :
    lane.readEnd.burden < lane.burden := by
  obtain ⟨unended, idle⟩ : lane.ended = false ∧ lane.backlog = [] := by
    simpa [awaitsBytes] using waits
  have weight : lane.readEnd.weight = 2 * lane.reader.finish.length + lane.weight :=
    weight_eq_of_backlog idle rfl rfl
  have ended : lane.readEnd.ended = true := rfl
  have lines := LineReader.length_finish_le lane.reader
  rw [burden, burden, weight, ended, unended]
  simp only [Bool.not_true, Bool.not_false, Bool.toNat_true, Bool.toNat_false]
  omega

end Lane

namespace Pipeline

variable {p : Pipeline} {s : Stream}

/-- What weighs on the capture. -/
def burden (p : Pipeline) : Nat := p.stdout.burden + p.stderr.burden + p.phase.rank

theorem burden_updateLane (p : Pipeline) (s : Stream) (f : Lane → Lane) :
    (p.updateLane s f).burden + (p.lane s).burden = p.burden + (f (p.lane s)).burden := by
  cases s <;> simp only [burden, updateLane, lane] <;> omega

/-- What the parties do by themselves makes the capture lighter. -/
theorem burden_perform_lt {a : Action} (ok : p.enabled a = true) (own : a.isOwn = true) :
    (p.perform a).burden < p.burden := by
  have lighter := load_perform_lt ok own
  have ran : p.run? [a] = some (p.perform a) := run?_cons_eq_some_iff.mpr ⟨ok, rfl⟩
  have same := ended_of_own ran (by simpa using own)
  have out := same .stdout
  have err := same .stderr
  simp only [lane] at out err
  simp only [load] at lighter
  simp only [burden, Lane.burden, out, err]
  omega

end Pipeline

namespace Plumbing

variable {rules : PipeRules} {q last : Plumbing} {m : Move} {moves : List Move} {s : Stream}
variable {writes : Writes}

/-- The unread bytes in both pipes, counted. -/
def unread (q : Plumbing) : Nat := (q.piped .stdout).length + (q.piped .stderr).length

/-- **What weighs on the system.**  It bounds the moves that are left. -/
def burden (q : Plumbing) : Nat :=
  q.unwritten.weight + 3 * q.unread + q.alive.toNat + q.capture.burden

theorem unread_update (q : Plumbing) (s : Stream) (bytes : List UInt8) :
    ({ q with piped := Function.update q.piped s bytes } : Plumbing).unread + (q.piped s).length =
      q.unread + bytes.length := by
  cases s <;> simp only [unread] <;> simp <;> omega

theorem burden_write_lt {count : Nat} (ok : q.enabled rules (.write count) = true) :
    (q.perform (.write count)).burden < q.burden := by
  obtain ⟨s, bytes, later, next, -, some, within, -⟩ := enabled_write_iff.mp ok
  have piped := unread_update q s (q.piped s ++ bytes.take count)
  have before := Writes.weight_cons s bytes later
  have behind := Writes.weight_cons s (bytes.drop count) later
  rw [List.length_append, List.length_take, Nat.min_eq_left within] at piped
  rw [List.length_drop] at behind
  simp only [perform, next, burden, unread] at piped ⊢
  omega

theorem burden_read_lt {bytes : ByteArray} (ok : q.enabled rules (.capture (.read s bytes)) = true) :
    (q.perform (.capture (.read s bytes))).burden < q.burden := by
  obtain ⟨ok, given⟩ := enabled_capture_iff.mp ok
  obtain ⟨waits, some⟩ : (q.capture.lane s).awaitsBytes = true ∧ bytes.isEmpty = false := by
    simpa [Pipeline.enabled] using ok
  have idle : (q.capture.lane s).backlog = [] := by
    simpa [Lane.awaitsBytes] using (Bool.and_eq_true_iff.mp waits).2
  have lines := Lane.burden_read_le idle bytes
  have lane := Pipeline.burden_updateLane q.capture s (·.read bytes)
  have piped := unread_update q s ((q.piped s).drop bytes.size)
  have positive : 0 < bytes.size := by
    simpa [ByteArray.isEmpty, Nat.pos_iff_ne_zero] using some
  have within : (q.piped s).length = bytes.size + ((q.piped s).drop bytes.size).length := by
    have split := congrArg List.length (split_of_supplies_read given)
    simpa using split
  simp only [perform, Pipeline.perform, drawn, burden, unread] at piped lane ⊢
  omega

/-- **Every move makes the system lighter.** -/
theorem burden_perform_lt (ok : q.enabled rules m = true) : (q.perform m).burden < q.burden := by
  cases m with
  | write count => exact burden_write_lt ok
  | nextWrite =>
      obtain ⟨s, later, next, -⟩ := enabled_nextWrite_iff.mp ok
      have before := Writes.weight_cons s [] later
      simp only [perform, next, burden, unread, List.tail_cons]
      omega
  | exit =>
      have alive := (enabled_exit_iff.mp ok).1
      simp [perform, burden, unread, alive]
  | capture a =>
      obtain ⟨possible, given⟩ := enabled_capture_iff.mp ok
      cases a with
      | read s bytes => exact burden_read_lt ok
      | readEnd s =>
          have lane := Pipeline.burden_updateLane q.capture s (·.readEnd)
          have lighter := Lane.burden_readEnd_lt possible
          simp only [perform, Pipeline.perform, drawn, burden, unread] at lane ⊢
          omega
      | cancel => cases given
      | _ =>
          have lighter := Pipeline.burden_perform_lt possible rfl
          simp only [perform, drawn, burden, unread]
          omega

theorem length_add_burden_le (ran : q.run? rules moves = some last) :
    moves.length + last.burden ≤ q.burden := by
  induction moves generalizing q with
  | nil =>
      obtain rfl : q = last := by simpa [run?] using ran
      simp
  | cons m moves ih =>
      obtain ⟨ok, rest⟩ := run?_cons_eq_some_iff.mp ran
      have lighter := burden_perform_lt ok
      have later := ih rest
      rw [List.length_cons]
      omega

theorem burden_begin (writes : Writes) :
    (begin writes).burden = 4 * writes.size + writes.length + 12 := by
  have weight := writes.weight_eq
  have capture : Pipeline.burden {} = 11 := rfl
  simp only [burden, begin, unread, capture, weight]
  simp

/-! ## The end of every run -/

/-- **The parties never wait for each other in vain.**  Whatever a child writes, in whatever order and
pieces, and whatever steps the parties take: somebody can take a step exactly as long as the drain has not
finished; no run has more moves than a bound that depends on the writes alone; and when the drain has
finished, both channels are closed and every line of each stream, the unterminated last one too, has been
added to the buffer of the stream. -/
theorem run_delivers (rules : PipeRules) (writes : Writes)
    (ran : (begin writes).run? rules moves = some last) :
    ((∃ m, last.enabled rules m = true) ↔ last.capture.finished = false) ∧
      moves.length ≤ 4 * writes.size + writes.length + 12 ∧
      (last.capture.finished = true → ∀ s, Delivered writes moves last s) := by
  have accounts := accounts_of_run ran
  refine ⟨⟨fun more => ?_, accounts.exists_enabled⟩, ?_, accounts.delivered⟩
  · obtain ⟨m, ok⟩ := more
    rw [Bool.eq_false_iff]
    intro done
    rw [accounts.not_enabled_of_finished done m] at ok
    cases ok
  · have bound := length_add_burden_le ran
    rw [burden_begin] at bound
    omega

/-- Pipes that hold three bytes, in which two are written as a whole. -/
def narrowPipes : PipeRules where
  capacity := 3
  atomic := 2
  capacity_pos := by decide
  atomic_le := by decide

/-- A child that writes four bytes to the one stream, the last of which have no newline, and a line to the
other. -/
def twoWrites : Writes := [(.stdout, [97, 98, 10, 99]), (.stderr, [120, 10])]

/-- A run of `twoWrites`: the child has to wait for the reader before it can finish its first write. -/
def throughNarrowPipes : List Move := [
  .write 3, .capture (.read .stdout "ab".toUTF8), .write 1, .nextWrite, .write 2, .nextWrite, .exit,
  .capture (.read .stderr "x\n".toUTF8), .capture (.read .stdout "\nc".toUTF8),
  .capture (.send .stdout), .capture (.send .stderr), .capture (.readEnd .stdout),
  .capture (.receive .stderr), .capture (.send .stdout), .capture (.readEnd .stderr),
  .capture (.receive .stdout), .capture (.hangUp .stderr), .capture (.receive .stdout),
  .capture (.hangUp .stdout), .capture .leave, .capture (.sweepEnd .stdout),
  .capture (.sweepEnd .stderr)]

/-- The end of `throughNarrowPipes`. -/
theorem run_delivers_twoWrites :
    ∃ last, (begin twoWrites).run? narrowPipes throughNarrowPipes = some last ∧
      last.capture.finished = true ∧
      linesTaken .stdout (actions throughNarrowPipes) = ["ab", "c"] ∧
      linesTaken .stderr (actions throughNarrowPipes) = ["x"] := by
  obtain ⟨last, ran, done⟩ : ∃ last,
      (begin twoWrites).run? narrowPipes throughNarrowPipes = some last ∧
        last.capture.finished = true := ⟨_, rfl, rfl⟩
  have delivered := (run_delivers narrowPipes twoWrites ran).2.2 done
  refine ⟨last, ran, done, ?_, ?_⟩
  · rw [(delivered .stdout).taken]
    decide +kernel
  · rw [(delivered .stderr).taken]
    decide +kernel

end Plumbing

end Overseer.Capture
