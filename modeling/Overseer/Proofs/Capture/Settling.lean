import Overseer.Proofs.Capture.Drain

/-!
# A capture that has settled

Settling takes every step for which nobody outside has to do anything.  Each of these steps makes the
capture lighter (`load_perform_lt`), so settling comes to a rest: behind it no party can do anything by
itself (`next?_settle`).

At rest, a capture that has not been cut short is known by what came in from outside, whatever order the
parties took their steps in.  `HasTakenIn` is this account: the bytes of each stream, and which streams
have ended.  A capture with such an account has finished exactly when both streams have ended, and then
its texts are those of all bytes.
-/

namespace Overseer.Capture

/-- The party that takes the action waits for nobody outside. -/
def Action.isOwn : Action → Bool
  | .read _ _ | .readEnd _ | .cancel => false
  | .send _ | .receive _ | .hangUp _ | .leave | .sweepEnd _ => true

/-! ## Settling comes to a rest -/

namespace Lane

variable {lane : Lane}

theorem weight_send_lt (more : lane.backlog ≠ []) : lane.send.weight < lane.weight := by
  obtain ⟨line, rest, next⟩ := List.exists_cons_of_ne_nil more
  simp only [weight, send_eq next, next, List.length_cons, List.length_append, List.length_nil]
  omega

theorem weight_receive_lt (waiting : lane.queue ≠ []) : lane.receive.weight < lane.weight := by
  obtain ⟨line, rest, next⟩ := List.exists_cons_of_ne_nil waiting
  simp only [weight, receive_eq next, next, List.length_cons]
  omega

theorem weight_hangUp_lt (listens : lane.listening = true) : lane.hangUp.weight < lane.weight := by
  simp [weight, hangUp, listens]

/-- A stream has ended when it had ended before or its reader has seen the end. -/
theorem ended_iff {final : Lane} {steps : List LaneStep} (ran : Run lane steps final) :
    final.ended = true ↔ lane.ended = true ∨ .readEnd ∈ steps := by
  induction ran with
  | nil lane => simp
  | @cons lane final step steps allowed rest ih =>
      rw [ih]
      cases step with
      | read bytes => simp [perform, read]
      | readEnd => simp [perform, readEnd]
      | send =>
          obtain ⟨line, more, next⟩ := List.exists_cons_of_ne_nil allowed.1
          simp [perform, send_eq next]
      | receive =>
          obtain ⟨line, more, next⟩ := List.exists_cons_of_ne_nil allowed
          simp [perform, receive_eq next]
      | hangUp => simp [perform, hangUp]

end Lane

/-- How many steps the drain can take at most towards its end. -/
def Phase.rank : Phase → Nat
  | .merging => 3
  | .sweeping .stdout => 2
  | .sweeping .stderr => 1
  | .done => 0

namespace Pipeline

variable {p q : Pipeline} {a : Action} {s : Stream}

/-- How many steps the parties can take at most by themselves. -/
def load (p : Pipeline) : Nat := p.stdout.weight + p.stderr.weight + p.phase.rank

theorem load_updateLane_lt {f : Lane → Lane} (less : (f (p.lane s)).weight < (p.lane s).weight) :
    (p.updateLane s f).load < p.load := by
  cases s with
  | stdout =>
      have less : (f p.stdout).weight < p.stdout.weight := less
      simp only [load, updateLane]
      omega
  | stderr =>
      have less : (f p.stderr).weight < p.stderr.weight := less
      simp only [load, updateLane]
      omega

/-- **Every step that a party takes by itself makes the capture lighter.** -/
theorem load_perform_lt (ok : p.enabled a = true) (own : a.isOwn = true) :
    (p.perform a).load < p.load := by
  cases a with
  | read t bytes => cases own
  | readEnd t => cases own
  | cancel => cases own
  | send t => exact load_updateLane_lt (Lane.weight_send_lt (by simp_all [enabled]))
  | receive t => exact load_updateLane_lt (Lane.weight_receive_lt (by simp_all [enabled]))
  | hangUp t => exact load_updateLane_lt (Lane.weight_hangUp_lt (by simp_all [enabled]))
  | leave =>
      have phase : p.phase = .merging := by simp_all [enabled]
      simp [load, perform, phase, Phase.rank]
  | sweepEnd t =>
      have phase : p.phase = .sweeping t := by simp_all [enabled]
      cases t <;> simp [load, perform, phase, Phase.rank, Phase.afterSweep]

theorem next?_eq_some (next : p.next? = some a) : p.enabled a = true ∧ a.isOwn = true := by
  refine ⟨List.find?_some next, ?_⟩
  have member := List.mem_of_find?_eq_some next
  simp only [ownActions, List.mem_append, List.mem_cons, List.not_mem_nil, or_false] at member
  rcases member with (rfl | rfl | rfl | rfl | rfl) | rfl | rfl | rfl | rfl <;> rfl

theorem next?_settleFor {n : Nat} (enough : p.load ≤ n) : (settleFor n p).next? = none := by
  induction n generalizing p with
  | zero =>
      cases next : p.next? with
      | none => exact next
      | some a =>
          obtain ⟨ok, own⟩ := next?_eq_some next
          have lighter := load_perform_lt ok own
          omega
  | succ n ih =>
      rw [settleFor]
      cases next : p.next? with
      | none => exact next
      | some a =>
          obtain ⟨ok, own⟩ := next?_eq_some next
          have lighter := load_perform_lt ok own
          exact ih (by omega)

/-- **Behind settling no party can do anything by itself.** -/
theorem next?_settle (p : Pipeline) : p.settle.next? = none := by
  refine next?_settleFor ?_
  have rank : p.phase.rank ≤ 3 := by
    cases p.phase with
    | sweeping t => cases t <;> decide
    | _ => decide
  simp only [load, weight]
  omega

/-- Settling is a run in which the parties are by themselves. -/
theorem exists_run_settleFor (n : Nat) (p : Pipeline) :
    ∃ actions, p.run? actions = some (settleFor n p) ∧ ∀ a ∈ actions, a.isOwn = true := by
  induction n generalizing p with
  | zero => exact ⟨[], rfl, by simp⟩
  | succ n ih =>
      rw [settleFor]
      cases next : p.next? with
      | none => exact ⟨[], rfl, by simp⟩
      | some a =>
          obtain ⟨ok, own⟩ := next?_eq_some next
          obtain ⟨actions, ran, owns⟩ := ih (p.perform a)
          exact ⟨a :: actions, run?_cons_eq_some_iff.mpr ⟨ok, ran⟩,
            List.forall_mem_cons.mpr ⟨own, owns⟩⟩

/-! ## What is known at rest -/

theorem not_enabled_of_idle (idle : p.next? = none) :
    p.enabled .leave = false ∧ ∀ s, ∀ a ∈ ownActions s, p.enabled a = false := by
  have idle := List.find?_eq_none.mp idle
  refine ⟨by simpa using idle .leave (by simp), fun s a member => ?_⟩
  cases s with
  | stdout => simpa using idle a (by simp [member])
  | stderr => simpa using idle a (by simp [member])

/-- A drain that rests is in its main loop, or it has ended. -/
theorem merging_or_done_of_idle (idle : p.next? = none) : p.phase = .merging ∨ p.phase = .done := by
  have still := (not_enabled_of_idle idle).2
  cases phase : p.phase with
  | merging => exact Or.inl rfl
  | done => exact Or.inr rfl
  | sweeping s =>
      -- Either the channel holds a line to take or its sweep is over.
      have noLine := still s (.receive s) (by simp [ownActions])
      have unswept := still s (.sweepEnd s) (by simp [ownActions])
      simp_all [enabled, takes]

theorem finished_of_cancelled (idle : p.next? = none) (cancelled : p.cancelled = true) :
    p.finished = true := by
  rcases merging_or_done_of_idle idle with inside | done
  · have stays := (not_enabled_of_idle idle).1
    simp [enabled, inside, mayLeave, cancelled] at stays
  · simp [finished, done]

/-- Nothing is left in a lane to which the drain listens. -/
theorem empty_of_idle (idle : p.next? = none) (inside : p.phase = .merging)
    (listens : (p.lane s).listening = true) :
    (p.lane s).queue = [] ∧ (p.lane s).backlog = [] ∧ (p.lane s).ended = false := by
  have still := (not_enabled_of_idle idle).2 s
  have queue : (p.lane s).queue = [] := by
    have noLine := still (.receive s) (by simp [ownActions])
    simpa [enabled, takes, inside, listens] using noLine
  have backlog : (p.lane s).backlog = [] := by
    have noSend := still (.send s) (by simp [ownActions])
    simpa [enabled, inside, queue, channelCapacity] using noSend
  have open_ := still (.hangUp s) (by simp [ownActions])
  refine ⟨queue, backlog, ?_⟩
  simpa [enabled, inside, listens, queue, Lane.closed, backlog] using open_

variable {actions : List Action}

theorem missesNothing_of_run (ran : run? {} actions = some p) (s : Stream) :
    (p.lane s).MissesNothing :=
  Lane.MissesNothing.run (lane_run_start s ran) fun deaf => absurd deaf (by decide)

theorem uncancelled_of_run (ran : run? {} actions = some p) (uncut : .cancel ∉ actions) :
    p.cancelled = false := by
  rw [← Bool.not_eq_true, cancelled_iff ran]
  rintro (start | cut)
  · exact absurd start (by decide)
  · exact uncut cut

/-- **A capture at rest has finished exactly when both streams have ended**, unless it is cut short. -/
theorem finished_iff_ended (ran : run? {} actions = some p) (uncut : .cancel ∉ actions)
    (idle : p.next? = none) : p.finished = true ↔ ∀ s, (p.lane s).ended = true := by
  constructor
  · intro done s
    have left : p.phase ≠ .merging := by
      intro inside
      simp [finished, inside] at done
    have closed := (closed_of_left ran left (uncancelled_of_run ran uncut) s).1
    exact (Bool.and_eq_true_iff.mp closed).1
  · intro ended
    rcases merging_or_done_of_idle idle with inside | done
    · have deaf : ∀ s, (p.lane s).listening = false := by
        intro s
        cases listens : (p.lane s).listening with
        | false => rfl
        | true =>
            have open_ := (empty_of_idle idle inside listens).2.2
            simp [ended s] at open_
      -- With both channels closed the drain would leave its main loop.
      have stays := (not_enabled_of_idle idle).1
      have out := deaf .stdout
      have err := deaf .stderr
      simp only [lane] at out err
      simp [enabled, inside, mayLeave, out, err] at stays
    · simp [finished, done]

/-- A reader at rest waits for bytes, unless its stream has ended. -/
theorem awaitsBytes_of_idle (ran : run? {} actions = some p) (uncut : .cancel ∉ actions)
    (idle : p.next? = none) (unended : (p.lane s).ended = false) :
    (p.lane s).awaitsBytes = true := by
  have inside : p.phase = .merging := by
    refine (merging_or_done_of_idle idle).resolve_right fun done => ?_
    have ended := (finished_iff_ended ran uncut idle).mp (by simp [finished, done]) s
    simp [unended] at ended
  have listens : (p.lane s).listening = true := by
    cases listens : (p.lane s).listening with
    | true => rfl
    | false =>
        have closed := (missesNothing_of_run ran s listens).1
        simp [Lane.closed, unended] at closed
  simp [Lane.awaitsBytes, unended, (empty_of_idle idle inside listens).2.1]

/-! ## The account of a capture -/

/-- **What a capture has taken in.**  It is at rest and has not been cut short; these are the bytes of
each stream, and the streams that have ended. -/
def HasTakenIn (p : Pipeline) (bytes : Stream → List UInt8) (shut : Stream → Bool) : Prop :=
  ∃ actions, run? {} actions = some p ∧ .cancel ∉ actions ∧ p.next? = none ∧
    ∀ s, (bytesRead s actions).data.toList = bytes s ∧ (p.lane s).ended = shut s

theorem hasTakenIn_start : HasTakenIn {} (fun _ => []) fun _ => false := by
  refine ⟨[], rfl, by simp, rfl, fun s => ?_⟩
  cases s <;> exact ⟨rfl, rfl⟩

/-- What the parties do by themselves brings in nothing. -/
theorem bytesRead_of_own {actions : List Action} (own : ∀ a ∈ actions, a.isOwn = true)
    (s : Stream) : bytesRead s actions = .empty := by
  refine bytesRead_eq_empty fun a member => ?_
  have mine := own a member
  cases a with
  | read t bytes => cases mine
  | readEnd t => cases mine
  | cancel => cases mine
  | leave => rfl
  | sweepEnd t => rfl
  | _ t => by_cases same : t = s <;> simp [bytesRead, steps, Action.step?, same, Lane.bytesRead]

/-- What the parties do by themselves ends no stream. -/
theorem ended_of_own (ran : p.run? actions = some q) (own : ∀ a ∈ actions, a.isOwn = true)
    (s : Stream) : (q.lane s).ended = (p.lane s).ended := by
  have unseen : .readEnd ∉ steps s actions := by
    intro seen
    obtain ⟨a, member, step⟩ := List.mem_filterMap.mp seen
    have mine := own a member
    cases a with
    | readEnd t => cases mine
    | _ => simp [Action.step?] at step
  have same := Lane.ended_iff (lane_run s ran)
  rw [Bool.eq_iff_iff, same]
  simp [unseen]

variable {bytes : Stream → List UInt8} {shut : Stream → Bool}

/-- One more action from outside, and what the parties make of it. -/
theorem HasTakenIn.settle {bytes' : Stream → List UInt8} {shut' : Stream → Bool}
    (taken : p.HasTakenIn bytes shut) (ok : p.enabled a = true) (news : a ≠ .cancel)
    (read : ∀ s, bytes' s = bytes s ++ (bytesRead s [a]).data.toList)
    (ended : ∀ s, ((p.perform a).lane s).ended = shut' s) :
    (p.perform a).settle.HasTakenIn bytes' shut' := by
  obtain ⟨actions, ran, uncut, -, known⟩ := taken
  obtain ⟨more, settled, own⟩ := exists_run_settleFor (p.perform a).weight (p.perform a)
  refine ⟨actions ++ a :: more, ?_, ?_, next?_settle _, fun s => ⟨?_, ?_⟩⟩
  · exact run?_append_eq_some_iff.mpr ⟨p, ran, run?_cons_eq_some_iff.mpr ⟨ok, settled⟩⟩
  · rw [List.mem_append, List.mem_cons]
    rintro (early | here | later)
    · exact uncut early
    · exact news here.symm
    · cases own _ later
  · rw [← List.singleton_append, bytesRead_append, bytesRead_append, bytesRead_of_own own,
      ByteArray.append_empty, ByteArray.data_append, Array.toList_append, (known s).1, read]
  · rw [Pipeline.settle, ended_of_own settled own, ended]

/-- A reader takes in a piece of its stream. -/
theorem HasTakenIn.read (taken : p.HasTakenIn bytes shut) (piece : ByteArray)
    (open_ : shut s = false) :
    (p.read s piece).HasTakenIn
      (fun t => if s = t then bytes t ++ piece.data.toList else bytes t) shut := by
  obtain ⟨actions, ran, uncut, idle, known⟩ := taken
  have waits : (p.lane s).awaitsBytes = true :=
    awaitsBytes_of_idle ran uncut idle ((known s).2.trans open_)
  rw [Pipeline.read]
  split
  · next ok =>
    refine HasTakenIn.settle ⟨actions, ran, uncut, idle, known⟩ ok nofun (fun t => ?_) fun t => ?_
    · by_cases same : s = t <;> simp [same, Capture.bytesRead, steps, Action.step?, Lane.bytesRead]
    · rw [← (known t).2]
      by_cases same : s = t <;> simp [same, perform, Lane.read]
  · next empty =>
    have nothing : piece = .empty := by
      simpa [enabled, waits, ByteArray.isEmpty, ByteArray.size_eq_zero_iff] using empty
    refine ⟨actions, ran, uncut, idle, fun t => ⟨?_, (known t).2⟩⟩
    simp [(known t).1, nothing]

/-- A reader sees the end of its stream. -/
theorem HasTakenIn.readEnd (taken : p.HasTakenIn bytes shut) (open_ : shut s = false) :
    (p.readEnd s).HasTakenIn bytes fun t => decide (s = t) || shut t := by
  obtain ⟨actions, ran, uncut, idle, known⟩ := taken
  have waits : p.enabled (.readEnd s) = true :=
    awaitsBytes_of_idle ran uncut idle ((known s).2.trans open_)
  rw [Pipeline.readEnd, if_pos waits]
  refine HasTakenIn.settle ⟨actions, ran, uncut, idle, known⟩ waits nofun (fun t => ?_) fun t => ?_
  · by_cases same : s = t <;> simp [same, Capture.bytesRead, steps, Action.step?, Lane.bytesRead]
  · rw [← (known t).2]
    by_cases same : s = t <;> simp [same, perform, Lane.readEnd]

theorem HasTakenIn.finished_iff (taken : p.HasTakenIn bytes shut) :
    p.finished = true ↔ ∀ s, shut s = true := by
  obtain ⟨actions, ran, uncut, idle, known⟩ := taken
  rw [finished_iff_ended ran uncut idle]
  exact forall_congr' fun s => by rw [(known s).2]

/-- **The text of a stream that was taken in to its end.** -/
theorem HasTakenIn.text_eq (taken : p.HasTakenIn bytes shut) (done : p.finished = true)
    (s : Stream) :
    p.text s = Terminal.clean ((textsToEnd (bytes s)).foldl appendLine "") := by
  obtain ⟨actions, ran, uncut, idle, known⟩ := taken
  rw [text, captured_eq s ran, linesTaken_of_uncut s ran done uncut, (known s).1]

/-- **A capture that is cut short has finished.** -/
theorem HasTakenIn.finished_cut (taken : p.HasTakenIn bytes shut) : p.cut.finished = true := by
  obtain ⟨actions, ran, uncut, -, -⟩ := taken
  have uncancelled := uncancelled_of_run ran uncut
  have cut : p.cut = (p.perform .cancel).settle := by simp [Pipeline.cut, enabled, uncancelled]
  obtain ⟨more, settled, -⟩ := exists_run_settleFor (p.perform .cancel).weight (p.perform .cancel)
  rw [cut]
  exact finished_of_cancelled (next?_settle _) ((cancelled_iff settled).mpr (Or.inl rfl))

end Pipeline

end Overseer.Capture
