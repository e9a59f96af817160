import Overseer.Proofs.Capture.Settling
import Overseer.Proofs.Supervision.Timelines

/-!
# The capture keeps up with the child

What comes out of the streams of a child goes into the capture at once.  So at every moment the capture
has taken in what the timeline has let out so far (`KeepsUp`), and from the capture one can tell how far
the timeline is: if the capture has finished, both streams have ended and their texts are complete
(`KeepsUp.of_finished`), and if it has not, one of the ends is yet to come (`KeepsUp.le_drainedAt`).
-/

namespace Overseer

open Overseer.Capture

/-- A capture takes in what comes out of a stream. -/
def Emission.into (p : Pipeline) : Emission → Pipeline
  | .output s bytes => p.read s bytes
  | .ended s => p.readEnd s

theorem hasTakenIn_into {p : Pipeline} {seen : Emissions} {e : Emission} (time : Nat)
    (taken : p.HasTakenIn seen.bytesOf seen.shut) (open_ : seen.shut e.stream = false) :
    (e.into p).HasTakenIn (Emissions.bytesOf (seen ++ [(time, e)]))
      (Emissions.shut (seen ++ [(time, e)])) := by
  cases e with
  | output s bytes =>
      have more : Emissions.bytesOf (seen ++ [(time, .output s bytes)]) =
          fun t => if s = t then seen.bytesOf t ++ bytes.data.toList else seen.bytesOf t := by
        funext t
        rw [Emissions.bytesOf_append]
        by_cases same : s = t <;> simp [Emissions.bytesOf, Emission.bytesOf, same]
      have same : Emissions.shut (seen ++ [(time, .output s bytes)]) = seen.shut := by
        funext t
        simp [Emissions.shut, Emission.ends]
      rw [more, same]
      exact taken.read bytes open_
  | ended s =>
      have same : Emissions.bytesOf (seen ++ [(time, .ended s)]) = seen.bytesOf := by
        funext t
        simp [Emissions.bytesOf, Emission.bytesOf]
      have more : Emissions.shut (seen ++ [(time, .ended s)]) =
          fun t => decide (s = t) || seen.shut t := by
        funext t
        rw [Emissions.shut_append, Bool.or_comm]
        simp [Emissions.shut, Emission.ends]
      rw [more, same]
      exact taken.readEnd open_

/-- When the last of the two streams ends; that may be never. -/
noncomputable def Timeline.drainedAt (timeline : Timeline) : ℕ∞ :=
  max (timeline.emissions.endOf .stdout) (timeline.emissions.endOf .stderr)

theorem endOf_le_drainedAt (timeline : Timeline) (s : Stream) :
    timeline.emissions.endOf s ≤ timeline.drainedAt := by
  cases s with
  | stdout => exact le_max_left _ _
  | stderr => exact le_max_right _ _

/-- The text of a stream that is read to its end. -/
def wholeText (bytes : List UInt8) : String :=
  Terminal.clean ((textsToEnd bytes).foldl appendLine "")

/-- **A capture keeps up with the child.**  It has taken in what has come out so far, and that is what
comes out up to now. -/
structure KeepsUp (timeline : Timeline) (seen : Emissions) (m : Moment) (p : Pipeline) :
    Prop where
  split : timeline.emissions = seen ++ m.upcoming
  past : ∀ x ∈ seen, x.1 ≤ m.now
  future : ∀ x ∈ m.upcoming, m.now ≤ x.1
  taken : p.HasTakenIn seen.bytesOf seen.shut

namespace KeepsUp

variable {timeline : Timeline} {seen rest : Emissions} {m later : Moment} {p : Pipeline}
variable {time : Nat} {e : Emission}

theorem begin (timeline : Timeline) : KeepsUp timeline [] timeline.begin {} where
  split := rfl
  past := by simp
  future := by simp [Timeline.begin]
  taken := Pipeline.hasTakenIn_start

theorem emission (keeps : KeepsUp timeline seen m p) (next : m.upcoming = (time, e) :: rest) :
    KeepsUp timeline (seen ++ [(time, e)]) { m with now := time, upcoming := rest } (e.into p) := by
  obtain ⟨split, past, future, taken⟩ := keeps
  rw [next] at split future
  have late : m.now ≤ time := future (time, e) List.mem_cons_self
  have ordered := timeline.ordered
  have closed := timeline.closed
  rw [Emissions.InOrder, split] at ordered
  rw [split, List.pairwise_append] at closed
  refine ⟨by simpa using split, ?_, ?_, ?_⟩
  · rw [List.forall_mem_append, List.forall_mem_singleton]
    exact ⟨fun x member => Nat.le_trans (past x member) late, Nat.le_refl _⟩
  · exact (List.pairwise_cons.mp (List.pairwise_append.mp ordered).2.1).1
  · refine hasTakenIn_into time taken ?_
    rw [Emissions.shut, List.any_eq_false]
    intro x member
    simpa using closed.2.2 x member (time, e) List.mem_cons_self

/-- Time passes. -/
theorem pass (keeps : KeepsUp timeline seen m p) (same : later.upcoming = m.upcoming)
    (forth : m.now ≤ later.now) (silent : ∀ x ∈ m.upcoming, later.now ≤ x.1) :
    KeepsUp timeline seen later p where
  split := by rw [keeps.split, same]
  past x member := Nat.le_trans (keeps.past x member) forth
  future := by rwa [same]
  taken := keeps.taken

/-- A capture that has finished has everything. -/
theorem of_finished (keeps : KeepsUp timeline seen m p) (done : p.finished = true) :
    timeline.drainedAt ≤ m.now ∧ ∀ s, p.text s = wholeText (timeline.emissions.bytesOf s) := by
  obtain ⟨split, past, future, taken⟩ := keeps
  have ended := taken.finished_iff.mp done
  have nothing : m.upcoming = [] := by
    refine List.eq_nil_iff_forall_not_mem.mpr fun x member => ?_
    have closed := timeline.closed
    rw [split, List.pairwise_append] at closed
    obtain ⟨y, seen, ends⟩ := List.any_eq_true.mp (ended x.2.stream)
    simp [closed.2.2 y seen x member] at ends
  refine ⟨?_, fun s => ?_⟩
  · rw [Timeline.drainedAt, split]
    exact max_le (Emissions.endOf_le (ended _) past) (Emissions.endOf_le (ended _) past)
  · rw [split, nothing, List.append_nil]
    exact taken.text_eq done s

/-- A capture that has not finished waits for the end of a stream. -/
theorem le_drainedAt (keeps : KeepsUp timeline seen m p) (open_ : p.finished = false)
    (silent : ∀ x ∈ m.upcoming, time ≤ x.1) : (time : ℕ∞) ≤ timeline.drainedAt := by
  have unended : ¬∀ s, seen.shut s = true := by
    rw [← keeps.taken.finished_iff, open_]
    decide
  obtain ⟨s, unended⟩ := not_forall.mp unended
  refine le_trans ?_ (endOf_le_drainedAt timeline s)
  rw [keeps.split]
  exact Emissions.le_endOf (by simpa using unended) silent

end KeepsUp

end Overseer
