import Mathlib.Logic.Relation
import Overseer.Proofs.Supervision.Programs

/-!
# Children that write to a pipe

A child writes bytes to one of its streams, says nothing on the other one, and ends with code 0 when it
has written everything.  Between it and the reader there is a pipe, and the system has two rules for
it: a pipe holds no more unread bytes than its capacity, and a child that writes to a pipe whose reading
end is closed is killed by a signal.

`Writer.Step` is what the child does by itself and `Writer.Shows` what a look at it shows.  A system
`Hosts` such a child when every answer it gives about the child is one of these; how far the child gets
between two answers is left open.  `hosting` is one such system.

## Main definitions

* `Writer` — the child and its pipe
* `Writer.Step`, `Writer.Shows` — what the child does, and what is seen of it
* `Hosts`, `WritesInTime` — a system on which such a child runs, and is done before the deadline
* `hosting` — a system on which the child always gets as far as it can
-/

namespace Overseer

open Overseer.Os Overseer.Processes

/-- The stream that is not the given one. -/
def Stream.other : Stream → Stream
  | stdout => stderr
  | stderr => stdout

@[simp] theorem Stream.other_ne (stream : Stream) : stream.other ≠ stream := by
  cases stream <;> decide

@[simp] theorem Stream.ne_other (stream : Stream) : stream ≠ stream.other := by
  cases stream <;> decide

namespace Script

/-- The signal for writing to a pipe that nobody reads. -/
def brokenPipe : Int32 := 13

/-- A child that writes to one of its streams, with the pipe to which it writes. -/
structure Writer where
  /-- what is still to be written -/
  unwritten : List UInt8
  /-- what is in the pipe -/
  piped : List UInt8 := []
  /-- the reading end of the pipe is open -/
  attached : Bool := true
  /-- the end of the other stream has not been seen -/
  otherOpen : Bool := true
  /-- how the child ended, once it has -/
  ending : Option ExitStatus := none
  /-- the end of the child has been seen -/
  told : Bool := false

namespace Writer

/-- What the child does by itself. -/
inductive Step (capacity : Nat) : Writer → Writer → Prop
  /-- it writes some bytes, as many as the pipe takes -/
  | write {w : Writer} {part rest : List UInt8} (alive : w.ending = none)
      (open_ : w.attached = true) (split : w.unwritten = part ++ rest)
      (fits : w.piped.length + part.length ≤ capacity) :
      Step capacity w { w with unwritten := rest, piped := w.piped ++ part }
  /-- it has written everything and ends -/
  | finish {w : Writer} (alive : w.ending = none) (done : w.unwritten = []) :
      Step capacity w { w with ending := some (.code 0) }
  /-- it goes on writing although nobody reads any more -/
  | breakOff {w : Writer} (alive : w.ending = none) (closed : w.attached = false)
      (more : w.unwritten ≠ []) :
      Step capacity w { w with ending := some (.signal brokenPipe) }

/-- The child takes some steps. -/
abbrev Steps (capacity : Nat) : Writer → Writer → Prop := Relation.ReflTransGen (Step capacity)

/-- What has been seen of the child does not change by what it does. -/
theorem flags_of_steps {capacity : Nat} {w w' : Writer} (steps : Steps capacity w w') :
    w'.attached = w.attached ∧ w'.otherOpen = w.otherOpen ∧ w'.told = w.told := by
  induction steps with
  | refl => exact ⟨rfl, rfl, rfl⟩
  | tail _ last ih => cases last <;> exact ih

/-- What a look at the child shows, and what is to be seen of it then. -/
inductive Shows (out : Stream) : Writer → News → Writer → Prop
  /-- bytes come out of the pipe in the order in which they went in -/
  | output {w : Writer} {bytes : ByteArray} {rest : List UInt8} (open_ : w.attached = true)
      (nonempty : bytes.data.toList ≠ []) (first : w.piped = bytes.data.toList ++ rest) :
      Shows out w (.output out bytes) { w with piped := rest }
  /-- the pipe is empty and the child has ended -/
  | ended {w : Writer} (open_ : w.attached = true) (empty : w.piped = [])
      (gone : w.ending ≠ none) :
      Shows out w (.ended out) { w with attached := false }
  /-- the other stream ends without a byte -/
  | otherEnded {w : Writer} (open_ : w.otherOpen = true) :
      Shows out w (.ended out.other) { w with otherOpen := false }
  /-- the child has ended -/
  | exited {w : Writer} (gone : w.ending ≠ none) (untold : w.told = false) :
      Shows out w .exited { w with told := true }

/-- Something of the child is still to be seen. -/
def Pending (w : Writer) : Prop := w.attached = true ∨ w.otherOpen = true ∨ w.told = false

end Writer

section

variable {σ : Type}

/-- **A system hosts a child that writes.**  A state is described by what the child was like when it
was last seen; it may have taken steps since.  As long as something is still to be seen, the deadline has
not passed and there is something to be seen before it does. -/
structure Hosts (platform : Platform σ) (child : Pid) (out : Stream) (capacity deadline : Nat)
    (describes : σ → Writer → Prop) : Prop where
  clock : ∀ s w, describes s w → w.Pending → (platform.clock.run s).1 < deadline
  await : ∀ s w, describes s w → w.Pending → ∃ w₁ w₂, Writer.Steps capacity w w₁ ∧
    Writer.Shows out w₁
      ((platform.await child (some deadline)).run (platform.clock.run s).2).1 w₂ ∧
    describes ((platform.await child (some deadline)).run (platform.clock.run s).2).2 w₂
  collect : ∀ s w status, describes s w → w.told = true → w.ending = some status →
    ((platform.collect child).run s).1 = .ok status ∧
      describes ((platform.collect child).run s).2 w
  hangUp : ∀ s w, describes s w → ∃ w₁, Writer.Steps capacity w w₁ ∧
    describes ((platform.hangUp child out).run s).2 { w₁ with attached := false }

/-- From a state on, a launch gives a child that writes the given bytes, and is done with it before the
deadline, which counts from the moment at which the child is there. -/
def WritesInTime (platform : Platform σ) (launch : Launch) (timeout : Time.Duration) (out : Stream)
    (bytes : List UInt8) (capacity : Nat) (state : σ) : Prop :=
  ∃ start child begun after describes, platform.Starts launch state start child begun after ∧
    describes after { unwritten := bytes } ∧
    Hosts platform child out capacity (begun + timeout.nanoseconds) describes

end

/-! ## A system that hosts a child -/

namespace Writer

/-- The child gets as far as it can. -/
def advance (capacity : Nat) (w : Writer) : Writer :=
  if w.ending.isSome then w
  else if w.attached then
    let room := capacity - w.piped.length
    let ending := if w.unwritten.length ≤ room then some (.code 0) else none
    { w with
      unwritten := w.unwritten.drop room
      piped := w.piped ++ w.unwritten.take room
      ending }
  else if w.unwritten = [] then { w with ending := some (.code 0) }
  else { w with ending := some (.signal brokenPipe) }

/-- Everything in the pipe is shown at once, and the end of the child at last. -/
def tell (out : Stream) (w : Writer) : News × Writer :=
  if w.attached then
    if w.piped = [] then (.ended out, { w with attached := false })
    else (.output out ⟨w.piped.toArray⟩, { w with piped := [] })
  else if w.otherOpen then (.ended out.other, { w with otherOpen := false })
  else (.exited, { w with told := true })

variable {capacity : Nat} {w : Writer}

theorem steps_advance (fits : w.piped.length ≤ capacity) :
    Steps capacity w (w.advance capacity) := by
  unfold advance
  split
  · exact .refl
  · next running =>
    have alive : w.ending = none := by simpa using running
    split
    · next open_ =>
      have wrote : Step capacity w
          { w with
            unwritten := w.unwritten.drop (capacity - w.piped.length)
            piped := w.piped ++ w.unwritten.take (capacity - w.piped.length) } := by
        refine .write alive open_ (List.take_append_drop _ _).symm ?_
        rw [List.length_take]
        omega
      dsimp only
      split
      · next all => exact .tail (.single wrote) (.finish alive (List.drop_eq_nil_of_le all))
      · rw [← alive]
        exact .single wrote
    · next closed =>
      split
      · next done => exact .single (.finish alive done)
      · next more => exact .single (.breakOff alive (by simpa using closed) more)

/-- When the child has got as far as it can, the pipe holds something or the child has ended. -/
theorem piped_ne_nil_or_ending_advance (holds : 0 < capacity) :
    (w.advance capacity).attached = true ∧ (w.advance capacity).piped ≠ [] ∨
      (w.advance capacity).ending ≠ none := by
  unfold advance
  split
  · next ended => exact Or.inr (Option.isSome_iff_ne_none.mp ended)
  · split
    · next open_ =>
      dsimp only
      split
      · exact Or.inr (Option.some_ne_none _)
      · next more =>
        refine Or.inl ⟨open_, ?_⟩
        intro empty
        obtain ⟨nothing, none⟩ := List.append_eq_nil_iff.mp empty
        rw [nothing] at none more
        rcases List.take_eq_nil_iff.mp none with noRoom | noBytes
        · exact absurd noRoom (Nat.ne_of_gt holds)
        · exact more (by simp [noBytes])
    · split <;> exact Or.inr (Option.some_ne_none _)

theorem shows_tell (out : Stream) (pending : w.Pending)
    (something : w.attached = true ∧ w.piped ≠ [] ∨ w.ending ≠ none) :
    Shows out w (w.tell out).1 (w.tell out).2 := by
  unfold tell
  split
  · next open_ =>
    split
    · next empty => exact .ended open_ empty (something.resolve_left fun both => both.2 empty)
    · next some => exact .output open_ (by simpa using some) (by simp)
  · next closed =>
    have gone : w.ending ≠ none := something.resolve_left fun both => closed both.1
    split
    · next open_ => exact .otherEnded open_
    · next noOther =>
      exact .exited gone ((pending.resolve_left closed).resolve_left noOther)

theorem pending_advance : (w.advance capacity).Pending ↔ w.Pending := by
  unfold Pending advance
  split
  · rfl
  · split
    · rfl
    · split <;> rfl

theorem piped_length_advance (fits : w.piped.length ≤ capacity) :
    (w.advance capacity).piped.length ≤ capacity := by
  unfold advance
  split
  · exact fits
  · split
    · rw [List.length_append, List.length_take]
      omega
    · split <;> exact fits

theorem piped_length_tell (out : Stream) (fits : w.piped.length ≤ capacity) :
    (w.tell out).2.piped.length ≤ capacity := by
  unfold tell
  split
  · split
    · exact fits
    · exact Nat.zero_le _
  · split <;> exact fits

end Writer

/-- A system on which a child writes to a stream as fast as it can; the rest of the system does not
matter. -/
def hosting (ρ : Type) (out : Stream) (capacity : Nat) : Platform (ρ × Writer) where
  clock := pure 0
  timeOfDay := pure default
  launch _ := pure (.ok 7)
  await _ _ := fun (rest, w) =>
    let (news, w) := (w.advance capacity).tell out
    (news, rest, w)
  collect _ := fun (rest, w) =>
    match w.ending with
    | some status => (.ok status, rest, w)
    | none => (.error (.ofErrno .noChild), rest, w)
  kill _ := pure (.ok ())
  hangUp _ stream :=
    modify fun (rest, w) => (rest, if stream = out then { w with attached := false } else w)
  release _ := pure ()

theorem hosts_hosting (ρ : Type) (out : Stream) {capacity deadline : Nat} (holds : 0 < capacity)
    (time : 0 < deadline) :
    Hosts (hosting ρ out capacity) 7 out capacity deadline
      fun s w => s.2 = w ∧ w.piped.length ≤ capacity where
  clock _ _ _ _ := time
  await := by
    rintro ⟨rest, w⟩ _ ⟨rfl, fits⟩ pending
    have news := (w.advance capacity).shows_tell out (Writer.pending_advance.mpr pending)
      (w.piped_ne_nil_or_ending_advance holds)
    exact ⟨_, _, w.steps_advance fits, news, rfl,
      (w.advance capacity).piped_length_tell out (w.piped_length_advance fits)⟩
  collect := by
    rintro ⟨rest, w⟩ _ status ⟨rfl, fits⟩ - ended
    have answer : ((hosting ρ out capacity).collect 7).run (rest, w) = (.ok status, rest, w) := by
      show (match w.ending with
        | some status => _
        | none => _) = _
      rw [ended]
    rw [answer]
    exact ⟨rfl, rfl, fits⟩
  hangUp := by
    rintro ⟨rest, w⟩ _ ⟨rfl, fits⟩
    exact ⟨w, .refl, if_pos rfl, fits⟩

/-- On a system that hosts it, a child writes whatever it writes in time. -/
theorem writesInTime_hosting {ρ : Type} (rest : ρ) (launch : Launch) {timeout : Time.Duration}
    (time : 0 < timeout.nanoseconds) (out : Stream) (bytes : List UInt8) {capacity : Nat}
    (holds : 0 < capacity) :
    WritesInTime (hosting ρ out capacity) launch timeout out bytes capacity
      (rest, { unwritten := bytes }) :=
  ⟨0, 7, 0, _, _, ⟨_, _, rfl, rfl, rfl⟩, ⟨rfl, Nat.zero_le _⟩,
    hosts_hosting ρ out holds (Nat.add_pos_right _ time)⟩

end Script

end Overseer
