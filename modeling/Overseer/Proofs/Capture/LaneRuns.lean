import Overseer.Capture.Pipeline
import Overseer.Proofs.Capture.Lines

/-!
# Runs of one lane

A stream has a lane of its own: a reader, a channel and a buffer.  What the other stream does never
touches it, so everything that is to be known about lines in order is known from the *steps* of one
lane.  This module follows the lines through such a run.

Three lists are read off a run: the lines that the reader cuts out of the bytes (`handed`), those that
it puts into the channel (`sent`) and those that the drain takes out again (`taken`).  The books
balance at each of the three stations, and that is all of first in, first out:

* `backlog_append_handed` — what is handed on is sent or still to be sent;
* `queue_append_sent` — what is sent is taken or still in the channel;
* `captured_eq_foldl` — the buffer holds what was taken.

`handed_eq` says which lines these are: those of the bytes that were read.
-/

namespace Overseer.Capture

/-- The steps of one lane. -/
inductive LaneStep where
  /-- the reader receives bytes -/
  | read (bytes : ByteArray)
  /-- the reader sees the end of the stream -/
  | readEnd
  /-- the reader puts a line into the channel -/
  | send
  /-- the drain takes a line out of the channel -/
  | receive
  /-- the drain sees that the channel is closed -/
  | hangUp

namespace Lane

/-- What a step does. -/
def perform (lane : Lane) : LaneStep → Lane
  | .read bytes => lane.read bytes
  | .readEnd => lane.readEnd
  | .send => lane.send
  | .receive => lane.receive
  | .hangUp => lane.hangUp

/-- When a lane has to allow a step. -/
def Allows (lane : Lane) : LaneStep → Prop
  | .read _ | .readEnd => lane.ended = false ∧ lane.backlog = []
  | .send => lane.backlog ≠ [] ∧ lane.queue.length < channelCapacity
  | .receive => lane.queue ≠ []
  | .hangUp => lane.queue = [] ∧ lane.closed = true

/-- A run of a lane. -/
inductive Run : Lane → List LaneStep → Lane → Prop where
  | nil (lane : Lane) : Run lane [] lane
  | cons {lane final : Lane} {step : LaneStep} {steps : List LaneStep}
      (allowed : lane.Allows step) (rest : Run (lane.perform step) steps final) :
      Run lane (step :: steps) final

/-- The bytes that the reader receives. -/
def bytesRead : List LaneStep → ByteArray
  | [] => .empty
  | .read bytes :: steps => bytes ++ bytesRead steps
  | _ :: steps => bytesRead steps

/-- The lines that the reader cuts out of the stream. -/
def handed (lane : Lane) : List LaneStep → List String
  | [] => []
  | .read bytes :: steps =>
      (lane.reader.feed bytes).2 ++ (lane.perform (.read bytes)).handed steps
  | .readEnd :: steps => lane.reader.finish ++ (lane.perform .readEnd).handed steps
  | step :: steps => (lane.perform step).handed steps

/-- The lines that the reader puts into the channel. -/
def sent (lane : Lane) : List LaneStep → List String
  | [] => []
  | .send :: steps => lane.backlog.head?.toList ++ (lane.perform .send).sent steps
  | step :: steps => (lane.perform step).sent steps

/-- The lines that the drain takes out of the channel. -/
def taken (lane : Lane) : List LaneStep → List String
  | [] => []
  | .receive :: steps => lane.queue.head?.toList ++ (lane.perform .receive).taken steps
  | step :: steps => (lane.perform step).taken steps

variable {lane final : Lane} {steps : List LaneStep}

theorem send_eq {line : String} {rest : List String} (next : lane.backlog = line :: rest) :
    lane.send = { lane with backlog := rest, queue := lane.queue ++ [line] } := by
  simp only [send, next]

theorem receive_eq {line : String} {rest : List String} (next : lane.queue = line :: rest) :
    lane.receive =
      { lane with queue := rest, captured := appendLine lane.captured line } := by
  simp only [receive, next]

@[simp] theorem listening_send (lane : Lane) : lane.send.listening = lane.listening := by
  unfold send
  split <;> rfl

@[simp] theorem listening_receive (lane : Lane) : lane.receive.listening = lane.listening := by
  unfold receive
  split <;> rfl

/-! ## The books -/

/-- **Every line handed on is sent or still to be sent**, in the order of the stream. -/
theorem backlog_append_handed (ran : Run lane steps final) :
    lane.backlog ++ lane.handed steps = lane.sent steps ++ final.backlog := by
  induction ran with
  | nil lane => simp [handed, sent]
  | @cons lane final step steps allowed rest ih =>
      cases step with
      | read bytes =>
          -- A reader with lines to send does not read, so the new lines are the first ones.
          have none : lane.backlog = [] := allowed.2
          simpa [handed, sent, none, perform, read] using ih
      | readEnd =>
          have none : lane.backlog = [] := allowed.2
          simpa [handed, sent, none, perform, readEnd] using ih
      | send =>
          obtain ⟨line, more, next⟩ := List.exists_cons_of_ne_nil allowed.1
          simpa [handed, sent, next, perform, send_eq next] using ih
      | receive =>
          obtain ⟨line, more, next⟩ := List.exists_cons_of_ne_nil allowed
          simpa [handed, sent, perform, receive_eq next] using ih
      | hangUp => simpa [handed, sent, perform, hangUp] using ih

/-- **Every line sent is taken or still in the channel**, first in, first out. -/
theorem queue_append_sent (ran : Run lane steps final) :
    lane.queue ++ lane.sent steps = lane.taken steps ++ final.queue := by
  induction ran with
  | nil lane => simp [sent, taken]
  | @cons lane final step steps allowed rest ih =>
      cases step with
      | read bytes => simpa [sent, taken, perform, read] using ih
      | readEnd => simpa [sent, taken, perform, readEnd] using ih
      | send =>
          obtain ⟨line, more, next⟩ := List.exists_cons_of_ne_nil allowed.1
          simpa [sent, taken, next, perform, send_eq next] using ih
      | receive =>
          obtain ⟨line, more, next⟩ := List.exists_cons_of_ne_nil allowed
          simpa [sent, taken, next, perform, receive_eq next] using ih
      | hangUp => simpa [sent, taken, perform, hangUp] using ih

/-- **The buffer holds the lines taken**, as far as they fit. -/
theorem captured_eq_foldl (ran : Run lane steps final) :
    final.captured = (lane.taken steps).foldl appendLine lane.captured := by
  induction ran with
  | nil lane => rfl
  | @cons lane final step steps allowed rest ih =>
      cases step with
      | read bytes => simpa [taken, perform, read] using ih
      | readEnd => simpa [taken, perform, readEnd] using ih
      | send =>
          obtain ⟨line, more, next⟩ := List.exists_cons_of_ne_nil allowed.1
          simpa [taken, perform, send_eq next] using ih
      | receive =>
          obtain ⟨line, more, next⟩ := List.exists_cons_of_ne_nil allowed
          simpa [taken, next, perform, receive_eq next] using ih
      | hangUp => simpa [taken, perform, hangUp] using ih

/-! ## Which lines these are -/

/-- A stream that has ended has nothing more to read. -/
theorem quiet_of_ended (ran : Run lane steps final) (ended : lane.ended = true) :
    final.ended = true ∧ lane.handed steps = [] ∧ bytesRead steps = .empty := by
  induction ran with
  | nil lane => exact ⟨ended, rfl, rfl⟩
  | @cons lane final step steps allowed rest ih =>
      cases step with
      | read bytes => exact absurd ended (by simp [allowed.1])
      | readEnd => exact absurd ended (by simp [allowed.1])
      | send =>
          obtain ⟨line, more, next⟩ := List.exists_cons_of_ne_nil allowed.1
          simpa [handed, bytesRead] using ih (by simpa [perform, send_eq next] using ended)
      | receive =>
          obtain ⟨line, more, next⟩ := List.exists_cons_of_ne_nil allowed
          simpa [handed, bytesRead] using ih (by simpa [perform, receive_eq next] using ended)
      | hangUp => simpa [handed, bytesRead] using ih ended

/-- **A reader hands on the lines of the bytes that it has read**, however they were cut into
pieces, and the open line too once the stream has ended. -/
theorem handed_eq (ran : Run lane steps final) (unended : lane.ended = false)
    (clear : newline ∉ lane.reader.unfinished) :
    lane.handed steps =
      textsSoFar final.ended (lane.reader.unfinished ++ (bytesRead steps).data.toList) := by
  induction ran with
  | nil lane => simp [handed, bytesRead, textsSoFar, unended, texts_of_notMem clear]
  | @cons lane final step steps allowed rest ih =>
      cases step with
      | read bytes =>
          -- The rest of the run goes on from the open line of all that was read.
          have reader : (lane.perform (.read bytes)).reader = (lane.reader.feed bytes).1 := rfl
          have later := ih unended
            (by rw [reader, LineReader.unfinished_feed _ _ clear]; exact newline_notMem_openLine _)
          rw [reader, LineReader.unfinished_feed _ _ clear] at later
          rw [handed, bytesRead, later, LineReader.lines_feed _ _ clear, ByteArray.data_append,
            Array.toList_append, ← List.append_assoc, ← textsSoFar_append]
      | readEnd =>
          -- What is unfinished is the last line, and nothing comes behind it.
          obtain ⟨ended, noLines, noBytes⟩ := quiet_of_ended rest rfl
          have silent : bytesRead (.readEnd :: steps) = .empty := noBytes
          rw [handed, noLines, silent, ended, LineReader.finish_eq _ clear]
          simp [textsSoFar]
      | send =>
          obtain ⟨line, more, next⟩ := List.exists_cons_of_ne_nil allowed.1
          simp only [perform, send_eq next] at ih
          simpa [handed, bytesRead, perform, send_eq next] using ih unended clear
      | receive =>
          obtain ⟨line, more, next⟩ := List.exists_cons_of_ne_nil allowed
          simp only [perform, receive_eq next] at ih
          simpa [handed, bytesRead, perform, receive_eq next] using ih unended clear
      | hangUp => exact ih unended clear

/-! ## A drain that does not listen any more has missed nothing -/

/-- The drain listens, or the channel is closed and empty. -/
def MissesNothing (lane : Lane) : Prop :=
  lane.listening = false → lane.closed = true ∧ lane.queue = []

theorem MissesNothing.step {step : LaneStep} (sound : lane.MissesNothing)
    (allowed : lane.Allows step) : (lane.perform step).MissesNothing := by
  intro deaf
  -- A closed lane allows neither reading nor sending, and an empty one no receiving.
  cases step with
  | read bytes =>
      obtain ⟨closed, -⟩ := sound deaf
      simp [Lane.closed, allowed.1] at closed
  | readEnd =>
      obtain ⟨closed, -⟩ := sound deaf
      simp [Lane.closed, allowed.1] at closed
  | send =>
      obtain ⟨line, more, next⟩ := List.exists_cons_of_ne_nil allowed.1
      obtain ⟨closed, -⟩ := sound (by simpa [perform, send_eq next] using deaf)
      simp [Lane.closed, next] at closed
  | receive =>
      obtain ⟨line, more, next⟩ := List.exists_cons_of_ne_nil allowed
      obtain ⟨-, empty⟩ := sound (by simpa [perform, receive_eq next] using deaf)
      exact absurd empty allowed
  | hangUp => exact ⟨allowed.2, allowed.1⟩

theorem MissesNothing.run (ran : Run lane steps final) (sound : lane.MissesNothing) :
    final.MissesNothing := by
  induction ran with
  | nil lane => exact sound
  | cons allowed rest ih => exact ih (sound.step allowed)

/-! ## Cutting a run in two -/

theorem taken_append {more : List LaneStep} (ran : Run lane steps final) :
    lane.taken (steps ++ more) = lane.taken steps ++ final.taken more := by
  induction ran with
  | nil lane => rfl
  | @cons lane final step steps allowed rest ih => cases step <;> simp [taken, ih]

theorem sent_append {more : List LaneStep} (ran : Run lane steps final) :
    lane.sent (steps ++ more) = lane.sent steps ++ final.sent more := by
  induction ran with
  | nil lane => rfl
  | @cons lane final step steps allowed rest ih => cases step <;> simp [sent, ih]

theorem bytesRead_append (front back : List LaneStep) :
    bytesRead (front ++ back) = bytesRead front ++ bytesRead back := by
  induction front with
  | nil => simp [bytesRead]
  | cons step front ih => cases step <;> simp [bytesRead, ih, ByteArray.append_assoc]

end Lane

end Overseer.Capture
