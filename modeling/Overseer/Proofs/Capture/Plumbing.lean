import Mathlib.Logic.Function.Basic
import Overseer.Proofs.Capture.Settling

/-!
# A child in front of the capture

A child writes to its two streams in any order, and between it and the capture there is a pipe for each
stream.  A pipe holds a bounded number of bytes, and so does a channel: when the drain is slow, the
readers stand still, the pipes fill up, and the child has to wait.  Everything waits for somebody here,
and the question is whether they may all wait for each other.

The system of the child, the pipes and the capture is a machine like the capture itself, with `Move`s for
its steps; a run is any list of moves that are possible when their turn comes.  This module has the machine
and its books (`Accounts`): at every moment of every run, each byte of a stream is read, in the pipe or
yet to be written, and no stream has ended before the child.

## Main definitions

* `PipeRules` — how much a pipe takes
* `Plumbing` — a child, its pipes and the capture
* `Move`, `Plumbing.act?`, `Plumbing.run?` — the steps of the parties
* `Plumbing.Accounts` — the books of a run
-/

namespace Overseer.Capture

/-- How much a pipe takes.  A write of few bytes goes in as a whole or not at all. -/
structure PipeRules where
  /-- a pipe holds so many unread bytes -/
  capacity : Nat
  /-- so many bytes go in as a whole -/
  atomic : Nat
  capacity_pos : 0 < capacity
  atomic_le : atomic ≤ capacity

/-- The writes of a child, in order: each has a stream and some bytes. -/
abbrev Writes := List (Stream × List UInt8)

/-- The bytes that writes bring to a stream. -/
def Writes.bytesOf (writes : Writes) (s : Stream) : List UInt8 :=
  writes.flatMap fun w => if w.1 = s then w.2 else []

@[simp] theorem Writes.bytesOf_nil (s : Stream) : Writes.bytesOf [] s = [] := rfl

theorem Writes.bytesOf_cons (t s : Stream) (bytes : List UInt8) (later : Writes) :
    Writes.bytesOf ((t, bytes) :: later) s = (if t = s then bytes else []) ++ later.bytesOf s :=
  List.flatMap_cons

/-- A child that writes, its two pipes, and the capture behind them. -/
structure Plumbing where
  /-- what the child has yet to write; the first write may have been made in part -/
  unwritten : Writes
  /-- the unread bytes in the pipe of each stream -/
  piped : Stream → List UInt8 := fun _ => []
  /-- the child has not ended -/
  alive : Bool := true
  /-- readers, channels and drain -/
  capture : Pipeline := {}

/-- The steps of the parties. -/
inductive Move where
  /-- the child puts so many bytes of a write into the pipe -/
  | write (count : Nat)
  /-- the child has made a write and goes on to the next one -/
  | nextWrite
  /-- the child ends -/
  | exit
  /-- a reader or the drain takes an action -/
  | capture (a : Action)

/-- The action of the capture that a move is. -/
def Move.action? : Move → Option Action
  | capture a => some a
  | write _ | nextWrite | exit => none

/-- The actions of the capture among some moves. -/
def actions (moves : List Move) : List Action := moves.filterMap Move.action?

namespace Plumbing

/-- The start of a child with some writes to make. -/
def begin (writes : Writes) : Plumbing := { unwritten := writes }

/-- What an action of the capture needs from the pipes.  Nobody cuts the drain short here. -/
def supplies (q : Plumbing) : Action → Bool
  | .read s bytes => bytes.data.toList.isPrefixOf (q.piped s)
  | .readEnd s => !q.alive && (q.piped s).isEmpty
  | .cancel => false
  | .send _ | .receive _ | .hangUp _ | .leave | .sweepEnd _ => true

/-- Whether a move is possible now.  The child is blocked while the pipe has no room for it. -/
def enabled (rules : PipeRules) (q : Plumbing) : Move → Bool
  | .write count =>
    match q.unwritten with
    | [] => false
    | (s, bytes) :: _ =>
      decide (q.alive ∧ 0 < count ∧ count ≤ bytes.length ∧
        (q.piped s).length + count ≤ rules.capacity ∧
        (bytes.length ≤ rules.atomic → count = bytes.length))
  | .nextWrite =>
    match q.unwritten with
    | (_, []) :: _ => q.alive
    | _ => false
  | .exit => q.alive && q.unwritten.isEmpty
  | .capture a => q.capture.enabled a && q.supplies a

/-- What is left in the pipes when the capture has taken an action. -/
def drawn (q : Plumbing) : Action → Stream → List UInt8
  | .read s bytes => Function.update q.piped s ((q.piped s).drop bytes.size)
  | _ => q.piped

/-- What a move does. -/
def perform (q : Plumbing) : Move → Plumbing
  | .write count =>
    match q.unwritten with
    | [] => q
    | (s, bytes) :: later =>
      { q with
        unwritten := (s, bytes.drop count) :: later
        piped := Function.update q.piped s (q.piped s ++ bytes.take count) }
  | .nextWrite => { q with unwritten := q.unwritten.tail }
  | .exit => { q with alive := false }
  | .capture a => { q with piped := q.drawn a, capture := q.capture.perform a }

/-- Takes moves one after the other, if each is possible when its turn comes. -/
def run? (rules : PipeRules) (q : Plumbing) : List Move → Option Plumbing
  | [] => some q
  | m :: moves => if q.enabled rules m then (q.perform m).run? rules moves else none

variable {rules : PipeRules} {q last : Plumbing} {m : Move} {moves : List Move} {s : Stream}
variable {writes : Writes}

theorem run?_cons_eq_some_iff :
    q.run? rules (m :: moves) = some last ↔
      q.enabled rules m = true ∧ (q.perform m).run? rules moves = some last := by
  rw [run?]
  split <;> simp_all

/-! ## What a move needs -/

theorem enabled_write_iff {count : Nat} :
    q.enabled rules (.write count) = true ↔ ∃ s bytes later, q.unwritten = (s, bytes) :: later ∧
      q.alive = true ∧ 0 < count ∧ count ≤ bytes.length ∧
      (q.piped s).length + count ≤ rules.capacity ∧
      (bytes.length ≤ rules.atomic → count = bytes.length) := by
  unfold enabled
  cases next : q.unwritten with
  | nil => simp
  | cons write later =>
      obtain ⟨t, bytes⟩ := write
      constructor
      · intro ok
        exact ⟨t, bytes, later, rfl, of_decide_eq_true ok⟩
      · rintro ⟨_, _, _, same, ok⟩
        cases same
        exact decide_eq_true ok

theorem enabled_nextWrite_iff :
    q.enabled rules .nextWrite = true ↔
      ∃ s later, q.unwritten = (s, []) :: later ∧ q.alive = true := by
  unfold enabled
  rcases q.unwritten with _ | ⟨⟨t, _ | ⟨b, bytes⟩⟩, later⟩ <;> simp

theorem enabled_exit_iff :
    q.enabled rules .exit = true ↔ q.alive = true ∧ q.unwritten = [] := by
  simp [enabled]

theorem enabled_capture_iff {a : Action} :
    q.enabled rules (.capture a) = true ↔ q.capture.enabled a = true ∧ q.supplies a = true := by
  simp [enabled]

/-- A reader takes the first bytes out of a pipe. -/
theorem split_of_supplies_read {bytes : ByteArray} (given : q.supplies (.read s bytes) = true) :
    q.piped s = bytes.data.toList ++ (q.piped s).drop bytes.size := by
  obtain ⟨rest, split⟩ := List.isPrefixOf_iff_prefix.mp given
  rw [← split, ← ByteArray.size_data, ← Array.length_toList, List.drop_left]

/-! ## The books -/

/-- **The books of a run.**  The capture has run by the actions among the moves, and no byte has been
lost on its way to it. -/
structure Accounts (writes : Writes) (moves : List Move) (q : Plumbing) : Prop where
  ran : Pipeline.run? {} (actions moves) = some q.capture
  uncut : .cancel ∉ actions moves
  bytes : ∀ s, writes.bytesOf s =
    (bytesRead s (actions moves)).data.toList ++ (q.piped s ++ q.unwritten.bytesOf s)
  gone : q.alive = false → q.unwritten = []
  ended : ∀ s, (q.capture.lane s).ended = true → q.alive = false ∧ q.piped s = []

namespace Accounts

theorem begin (writes : Writes) : Accounts writes [] (Plumbing.begin writes) where
  ran := rfl
  uncut := by simp [actions]
  bytes s := rfl
  gone := nofun
  ended s := by cases s <;> exact nofun

theorem actions_append_capture (moves : List Move) (a : Action) :
    actions (moves ++ [.capture a]) = actions moves ++ [a] :=
  List.filterMap_append

/-- A move of the child is none of the capture. -/
theorem actions_append_of_child (moves : List Move) (own : m.action? = none) :
    actions (moves ++ [m]) = actions moves := by
  simp [actions, own]

/-- The child puts bytes into a pipe. -/
theorem write {count : Nat} (accounts : Accounts writes moves q)
    (ok : q.enabled rules (.write count) = true) :
    Accounts writes (moves ++ [.write count]) (q.perform (.write count)) := by
  obtain ⟨t, bytes, later, next, alive, -⟩ := enabled_write_iff.mp ok
  have same : actions (moves ++ [.write count]) = actions moves :=
    actions_append_of_child moves rfl
  simp only [perform, next]
  constructor
  · rw [same]
    exact accounts.ran
  · rw [same]
    exact accounts.uncut
  · intro s
    rw [same, accounts.bytes s, next, Writes.bytesOf_cons, Writes.bytesOf_cons]
    by_cases here : t = s
    · subst here
      simp [← List.append_assoc, List.append_assoc _ (bytes.take count)]
    · simp [here, Function.update_of_ne (Ne.symm here)]
  · simp [alive]
  · intro s ended
    simp [(accounts.ended s ended).1] at alive

theorem nextWrite (accounts : Accounts writes moves q)
    (ok : q.enabled rules .nextWrite = true) :
    Accounts writes (moves ++ [.nextWrite]) (q.perform .nextWrite) := by
  obtain ⟨t, later, next, alive⟩ := enabled_nextWrite_iff.mp ok
  have same : actions (moves ++ [.nextWrite]) = actions moves :=
    actions_append_of_child moves rfl
  refine ⟨?_, ?_, fun s => ?_, ?_, accounts.ended⟩
  · rw [same]
    exact accounts.ran
  · rw [same]
    exact accounts.uncut
  · rw [same, accounts.bytes s, next, Writes.bytesOf_cons, ite_self, List.nil_append]
    simp [perform, next]
  · simp [perform, alive]

theorem exit (accounts : Accounts writes moves q) (ok : q.enabled rules .exit = true) :
    Accounts writes (moves ++ [.exit]) (q.perform .exit) := by
  obtain ⟨alive, done⟩ := enabled_exit_iff.mp ok
  have same : actions (moves ++ [.exit]) = actions moves := actions_append_of_child moves rfl
  refine ⟨?_, ?_, fun s => ?_, fun _ => done, fun s ended => ?_⟩
  · rw [same]
    exact accounts.ran
  · rw [same]
    exact accounts.uncut
  · rw [same]
    exact accounts.bytes s
  · exact ⟨rfl, (accounts.ended s ended).2⟩

/-- Only reading brings bytes. -/
theorem bytesRead_of_ne_read {a : Action} (other : ∀ t bytes, a ≠ .read t bytes) (s : Stream) :
    bytesRead s [a] = .empty := by
  cases a with
  | read t bytes => exact absurd rfl (other t bytes)
  | readEnd t | send t | receive t | hangUp t =>
      by_cases here : t = s <;> simp [bytesRead, steps, Action.step?, here, Lane.bytesRead]
  | cancel | leave | sweepEnd t => rfl

/-- What a reader takes out of a pipe is what it has read more. -/
theorem bytes_of_capture {a : Action} (given : q.supplies a = true) (s : Stream) :
    q.piped s = (bytesRead s [a]).data.toList ++ q.drawn a s := by
  cases a with
  | read t bytes =>
      by_cases here : t = s
      · subst here
        simpa [bytesRead, steps, Action.step?, Lane.bytesRead, drawn] using
          split_of_supplies_read given
      · simp [bytesRead, steps, Action.step?, Lane.bytesRead, drawn, here,
          Function.update_of_ne (Ne.symm here)]
  | _ => simp [bytesRead_of_ne_read, drawn]

/-- A stream ends when its reader sees the end, and only then. -/
theorem ended_of_capture {a : Action} (ok : q.capture.enabled a = true)
    (given : q.supplies a = true)
    (ended : ((q.capture.perform a).lane s).ended = true) :
    (q.capture.lane s).ended = true ∨ q.alive = false ∧ q.piped s = [] := by
  have ran : q.capture.run? [a] = some (q.capture.perform a) :=
    Pipeline.run?_cons_eq_some_iff.mpr ⟨ok, rfl⟩
  refine ((Lane.ended_iff (Pipeline.lane_run s ran)).mp ended).imp_right fun seen => ?_
  obtain ⟨b, member, step⟩ := List.mem_filterMap.mp seen
  obtain rfl : b = a := List.mem_singleton.mp member
  cases b with
  | readEnd t =>
      obtain rfl : t = s := by simpa [Action.step?] using step
      simpa [supplies] using given
  | _ => simp [Action.step?] at step

/-- The capture takes an action. -/
theorem capture {a : Action} (accounts : Accounts writes moves q)
    (ok : q.enabled rules (.capture a) = true) :
    Accounts writes (moves ++ [.capture a]) (q.perform (.capture a)) := by
  obtain ⟨ok, given⟩ := enabled_capture_iff.mp ok
  refine ⟨?_, ?_, fun s => ?_, accounts.gone, fun s ended => ?_⟩
  · rw [actions_append_capture]
    exact Pipeline.run?_append_eq_some_iff.mpr
      ⟨_, accounts.ran, Pipeline.run?_cons_eq_some_iff.mpr ⟨ok, rfl⟩⟩
  · rw [actions_append_capture, List.mem_append, List.mem_singleton]
    rintro (early | here)
    · exact accounts.uncut early
    · rw [← here] at given
      cases given
  · rw [actions_append_capture, bytesRead_append, accounts.bytes s, bytes_of_capture given s]
    simp [perform]
  · obtain ⟨gone, empty⟩ := (ended_of_capture ok given ended).elim (accounts.ended s) id
    -- What is taken out of an empty pipe leaves it empty.
    have split := bytes_of_capture given s
    rw [empty] at split
    exact ⟨gone, (List.append_eq_nil_iff.mp split.symm).2⟩

/-- **A move keeps the books.** -/
theorem step (accounts : Accounts writes moves q) (ok : q.enabled rules m = true) :
    Accounts writes (moves ++ [m]) (q.perform m) := by
  cases m with
  | write count => exact accounts.write ok
  | nextWrite => exact accounts.nextWrite ok
  | exit => exact accounts.exit ok
  | capture a => exact accounts.capture ok

/-- **The books of a run are kept to its end.** -/
theorem run {earlier : List Move} (accounts : Accounts writes earlier q)
    (ran : q.run? rules moves = some last) : Accounts writes (earlier ++ moves) last := by
  induction moves generalizing q earlier with
  | nil =>
      obtain rfl : q = last := by simpa [run?] using ran
      simpa using accounts
  | cons m moves ih =>
      obtain ⟨ok, rest⟩ := run?_cons_eq_some_iff.mp ran
      simpa using ih (accounts.step ok) rest

end Accounts

theorem accounts_of_run (ran : (begin writes).run? rules moves = some last) :
    Accounts writes moves last := by
  simpa using (Accounts.begin writes).run ran

end Plumbing

end Overseer.Capture
