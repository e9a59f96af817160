import Overseer.Proofs.Script.Sights
import Overseer.Proofs.Supervision.Timelines

/-!
# When the readers of a run are done

The reader of a stream is done when the stream ends, or when it has as much as it may keep.  A timeline
says when that is (`Emissions.doneAt`), though the reader itself does not know what is to come.

At every moment a reader is in one of two situations (`Reading`).  Either it reads on, and what it has and
what is to come are the whole stream; or it is done, and has what it may keep of the whole stream.  Whatever
comes out of either stream leads from such a situation to another one (`Reading.emission`).

## Main definitions

* `Emissions.without` — what is still seen when a stream is hung up
* `Emissions.doneAt` — when a reader with so much room is done
* `Reading` — how far a reader has got
-/

namespace Overseer

open Overseer.Capture

namespace Emission

variable {e : Emission} {s : Stream}

theorem bytesOf_of_ne (other : e.stream ≠ s) : e.bytesOf s = [] := by
  cases e with
  | output t bytes => exact if_neg other
  | ended t => rfl

theorem ends_of_ne (other : e.stream ≠ s) : e.ends s = false := by
  cases e with
  | output t bytes => rfl
  | ended t => exact decide_eq_false other

end Emission

namespace Emissions

variable {emissions rest : Emissions} {e : Emission} {s t : Stream} {room time limit : Nat}

/-- What comes out of the other stream. -/
def without (emissions : Emissions) (s : Stream) : Emissions :=
  emissions.filter fun x => x.2.stream ≠ s

theorem without_cons_of_eq (gone : e.stream = s) :
    without ((time, e) :: rest) s = rest.without s := by
  simp [without, gone]

theorem without_cons_of_ne (stays : e.stream ≠ s) :
    without ((time, e) :: rest) s = (time, e) :: rest.without s := by
  simp [without, stays]

theorem bytesOf_cons (time : Nat) (e : Emission) (rest : Emissions) (s : Stream) :
    bytesOf ((time, e) :: rest) s = e.bytesOf s ++ rest.bytesOf s :=
  rfl

theorem stream_ne_of_mem_without {x : Nat × Emission} (member : x ∈ emissions.without s) :
    x.2.stream ≠ s := by
  simpa using (List.mem_filter.mp member).2

theorem without_eq_self (silent : ∀ x ∈ emissions, x.2.stream ≠ s) : emissions.without s = emissions :=
  List.filter_eq_self.mpr fun x member => decide_eq_true (silent x member)

/-- When the reader of a stream is done that has room for so many bytes: at the end of the stream, or
when there is no more room.  That may be never. -/
def doneAt (s : Stream) : Nat → Emissions → ℕ∞
  | _, [] => ⊤
  | room, (time, e) :: rest =>
    if e.stream = s then
      if e.ends s = true ∨ room ≤ (e.bytesOf s).length then time
      else doneAt s (room - (e.bytesOf s).length) rest
    else doneAt s room rest

theorem doneAt_of_ne (other : e.stream ≠ s) :
    doneAt s room ((time, e) :: rest) = doneAt s room rest := by
  rw [doneAt, if_neg other]

theorem doneAt_of_last (same : e.stream = s) (last : e.ends s = true ∨ room ≤ (e.bytesOf s).length) :
    doneAt s room ((time, e) :: rest) = time := by
  rw [doneAt, if_pos same, if_pos last]

theorem doneAt_of_not_last (same : e.stream = s)
    (more : ¬ (e.ends s = true ∨ room ≤ (e.bytesOf s).length)) :
    doneAt s room ((time, e) :: rest) = doneAt s (room - (e.bytesOf s).length) rest := by
  rw [doneAt, if_pos same, if_neg more]

/-- A reader is not done before something comes out. -/
theorem le_doneAt (late : ∀ x ∈ emissions, limit ≤ x.1) : (limit : ℕ∞) ≤ doneAt s room emissions := by
  induction emissions generalizing room with
  | nil => exact le_top
  | cons x rest ih =>
      obtain ⟨time, e⟩ := x
      obtain ⟨here, later⟩ := List.forall_mem_cons.mp late
      unfold doneAt
      split
      · split
        · exact Nat.cast_le.mpr here
        · exact ih later
      · exact ih later

/-- The reader of the one stream does not notice that the other one is hung up. -/
theorem doneAt_without (other : t ≠ s) (room : Nat) (emissions : Emissions) :
    doneAt s room (emissions.without t) = doneAt s room emissions := by
  induction emissions generalizing room with
  | nil => rfl
  | cons x rest ih =>
      obtain ⟨time, e⟩ := x
      by_cases gone : e.stream = t
      · rw [without_cons_of_eq gone, ih, doneAt_of_ne (gone ▸ other)]
      · rw [without_cons_of_ne gone, doneAt, doneAt]
        simp only [ih]

theorem bytesOf_without (other : t ≠ s) (emissions : Emissions) :
    (emissions.without t).bytesOf s = emissions.bytesOf s := by
  induction emissions with
  | nil => rfl
  | cons x rest ih =>
      obtain ⟨time, e⟩ := x
      by_cases gone : e.stream = t
      · rw [without_cons_of_eq gone, ih, bytesOf_cons, Emission.bytesOf_of_ne (gone ▸ other),
          List.nil_append]
      · rw [without_cons_of_ne gone, bytesOf_cons, bytesOf_cons, ih]

theorem bytesOf_eq_nil (silent : ∀ x ∈ emissions, x.2.stream ≠ s) : emissions.bytesOf s = [] :=
  List.flatMap_eq_nil_iff.mpr fun x member => Emission.bytesOf_of_ne (silent x member)

end Emissions

/-- When the reader of a stream is done on a timeline. -/
def Timeline.readAt (timeline : Timeline) (s : Stream) : ℕ∞ :=
  timeline.emissions.doneAt s maxOutputBytes

namespace Script

/-- What is seen of what comes out of a stream. -/
def sightOf : Emission → Sight
  | .output s bytes => .output s bytes
  | .ended s => .ended s

theorem bytesOf_sightOf (e : Emission) (s : Stream) : (sightOf e).bytesOf s = e.bytesOf s := by
  cases e <;> rfl

theorem ends_sightOf (e : Emission) (s : Stream) : (sightOf e).ends s = e.ends s := by
  cases e <;> rfl

theorem outcome?_sightOf (e : Emission) : (sightOf e).outcome? = none := by
  cases e <;> rfl

/-- What is still to come when a sight has been seen: a stream is hung up when its reader is done. -/
def stillSeen (s : Stream) (seen : List Sight) (rest : Emissions) : Emissions :=
  if streamOver s seen then rest.without s else rest

theorem stillSeen_sublist (s : Stream) (seen : List Sight) (rest : Emissions) :
    (stillSeen s seen rest).Sublist rest := by
  unfold stillSeen
  split
  · exact List.filter_sublist
  · exact List.Sublist.refl _

/-- **How far the reader of a stream has got**, when some sights have been seen. -/
inductive Reading (emissions : Emissions) (s : Stream) (seen : List Sight) (m : Moment) : Prop
  /-- it reads on -/
  | going (running : streamOver s seen = false)
      (bytes : brought s seen ++ m.upcoming.bytesOf s = emissions.bytesOf s)
      (due : m.upcoming.doneAt s (maxOutputBytes - (brought s seen).length) =
        emissions.doneAt s maxOutputBytes)
  /-- it is done -/
  | done (full : streamOver s seen = true)
      (bytes : kept s seen = (emissions.bytesOf s).take maxOutputBytes)
      (due : emissions.doneAt s maxOutputBytes ≤ m.now)
      (silent : ∀ x ∈ m.upcoming, x.2.stream ≠ s)

namespace Reading

variable {emissions rest : Emissions} {s : Stream} {seen : List Sight} {m later : Moment}
variable {sight : Sight} {time : Nat} {e : Emission}

/-- Something is seen that has nothing to do with the stream. -/
theorem silent (reading : Reading emissions s seen m) (nothing : sight.bytesOf s = [])
    (unended : sight.ends s = false) (forth : m.now ≤ later.now)
    (less : ∀ x ∈ later.upcoming, x ∈ m.upcoming)
    (bytes : later.upcoming.bytesOf s = m.upcoming.bytesOf s)
    (done : ∀ room, later.upcoming.doneAt s room = m.upcoming.doneAt s room) :
    Reading emissions s (seen ++ [sight]) later := by
  have same := streamOver_append_of_silent s seen sight nothing
  rw [unended, Bool.or_false] at same
  cases reading with
  | going running whole due =>
      refine .going (same.trans running) ?_ ?_
      · rw [brought_append_of_silent s seen sight nothing, bytes, whole]
      · rw [brought_append_of_silent s seen sight nothing, done, due]
  | done full whole due silent =>
      refine .done (same.trans full) ?_ (due.trans (Nat.cast_le.mpr forth)) ?_
      · rw [kept_append_of_silent s seen sight nothing, whole]
      · exact fun x member => silent x (less x member)

/-- Something comes out of the other stream. -/
theorem emission_of_ne (reading : Reading emissions s seen m) (next : m.upcoming = (time, e) :: rest)
    (forth : m.now ≤ time) (other : e.stream ≠ s) :
    Reading emissions s (seen ++ [sightOf e])
      { m with now := time, upcoming := stillSeen e.stream (seen ++ [sightOf e]) rest } := by
  have bytes : (stillSeen e.stream (seen ++ [sightOf e]) rest).bytesOf s = rest.bytesOf s := by
    unfold stillSeen
    split
    · exact Emissions.bytesOf_without other rest
    · rfl
  have done : ∀ room, (stillSeen e.stream (seen ++ [sightOf e]) rest).doneAt s room =
      rest.doneAt s room := by
    intro room
    unfold stillSeen
    split
    · exact Emissions.doneAt_without other room rest
    · rfl
  refine reading.silent ?_ ?_ forth ?_ ?_ ?_
  · rw [bytesOf_sightOf, Emission.bytesOf_of_ne other]
  · rw [ends_sightOf, Emission.ends_of_ne other]
  · intro x member
    rw [next]
    exact List.mem_cons_of_mem _ ((stillSeen_sublist _ _ _).subset member)
  · rw [bytes, next, Emissions.bytesOf_cons, Emission.bytesOf_of_ne other, List.nil_append]
  · intro room
    rw [done, next, Emissions.doneAt_of_ne other]

/-- Something comes out of the stream itself. -/
theorem emission_of_eq (reading : Reading emissions s seen m) (next : m.upcoming = (time, e) :: rest)
    (closed : ∀ x ∈ rest, e.ends x.2.stream = false) (same : e.stream = s) :
    streamOver s seen = false ∧ Reading emissions s (seen ++ [sightOf e])
      { m with now := time, upcoming := stillSeen s (seen ++ [sightOf e]) rest } := by
  cases reading with
  | done _ _ _ silent => exact absurd same (silent (time, e) (by simp [next]))
  | going running whole due =>
      refine ⟨running, ?_⟩
      have unended := ((streamOver_eq_false_iff s seen).mp running).1
      have room := ((streamOver_eq_false_iff s seen).mp running).2
      have more : brought s (seen ++ [sightOf e]) = brought s seen ++ e.bytesOf s := by
        rw [brought_append_of_not_over s seen _ running, bytesOf_sightOf]
      have whole : brought s (seen ++ [sightOf e]) ++ rest.bytesOf s = emissions.bytesOf s := by
        rw [more, List.append_assoc, ← whole, next, Emissions.bytesOf_cons]
      -- The reader is done now exactly if the timeline says so.
      have last : streamOver s (seen ++ [sightOf e]) = true ↔
          e.ends s = true ∨ maxOutputBytes - (brought s seen).length ≤ (e.bytesOf s).length := by
        simp only [streamOver, endSeen_append_singleton, unended, ends_sightOf, more,
          List.length_append, Bool.false_or, Bool.or_eq_true, decide_eq_true_eq]
        exact or_congr_right (by omega)
      rw [next] at due
      cases full : streamOver s (seen ++ [sightOf e]) with
      | true =>
          rw [Emissions.doneAt_of_last same (last.mp full)] at due
          refine .done full ?_ due.ge ?_
          · rw [kept, ← whole]
            rcases Bool.or_eq_true_iff.mp full with ended | long
            · have ends : e.ends s = true := by simpa [unended, ends_sightOf] using ended
              have silent : ∀ x ∈ rest, x.2.stream ≠ s := by
                rintro x member rfl
                simp [closed x member] at ends
              rw [Emissions.bytesOf_eq_nil silent, List.append_nil]
            · rw [List.take_append_of_le_length (of_decide_eq_true long)]
          · rw [stillSeen, if_pos full]
            exact fun x member => Emissions.stream_ne_of_mem_without member
      | false =>
          rw [Emissions.doneAt_of_not_last same (mt last.mpr (by simp [full]))] at due
          have shut : stillSeen s (seen ++ [sightOf e]) rest = rest := by
            rw [stillSeen, full]
            rfl
          refine .going full ?_ ?_
          · rw [shut, whole]
          · rw [shut, more, List.length_append, ← Nat.sub_sub, due]

/-- **Something comes out of either stream.** -/
theorem emission (reading : Reading emissions s seen m) (next : m.upcoming = (time, e) :: rest)
    (closed : ∀ x ∈ rest, e.ends x.2.stream = false) (forth : m.now ≤ time) :
    Reading emissions s (seen ++ [sightOf e])
      { m with now := time, upcoming := stillSeen e.stream (seen ++ [sightOf e]) rest } := by
  by_cases same : e.stream = s
  · exact same ▸ (reading.emission_of_eq next closed same).2
  · exact reading.emission_of_ne next forth same

/-- Time passes while nothing comes out. -/
theorem pass (reading : Reading emissions s seen m) (nothing : sight.bytesOf s = [])
    (unended : sight.ends s = false) (forth : m.now ≤ later.now)
    (same : later.upcoming = m.upcoming) : Reading emissions s (seen ++ [sight]) later :=
  reading.silent nothing unended forth (fun x member => same ▸ member) (by rw [same])
    fun room => by rw [same]

/-- A reader that reads on is done no sooner than something comes out. -/
theorem le_doneAt (reading : Reading emissions s seen m) (running : streamOver s seen = false)
    (late : ∀ x ∈ m.upcoming, time ≤ x.1) : (time : ℕ∞) ≤ emissions.doneAt s maxOutputBytes := by
  cases reading with
  | going _ _ done =>
      rw [← done]
      exact Emissions.le_doneAt late
  | done full => simp [running] at full

end Reading

end Script

end Overseer
