import Mathlib.Data.List.TakeWhile
import Overseer.Proofs.Supervision.Programs
import Overseer.Script.Collect

/-!
# What is seen of a run

A run of a program is watched up to its deadline.  What the system shows meanwhile is a list of
*sights*, and what is known of the run at any moment follows from that list alone: how the child ended,
which bytes each stream brought, and whether anything is still waited for (`concluded`).

The watch itself keeps buffers and marks and never the list.  `summarises_collectFor` says that these
are a summary of the list, and `run_runProgram_of_starts` that a run of a program gives the verdict on it.
Nothing else is used of the watch elsewhere.

## Main definitions

* `Sight` — what one look at a child shows
* `brought`, `kept`, `streamOver`, `outcome?`, `concluded` — what a list of sights says
* `watchFor` — what the system shows of a child, up to the deadline
* `verdict` — what is made of a whole run
-/

namespace Overseer.Script

open Overseer.Capture Overseer.Os Overseer.Processes Overseer.Text Overseer.Time

/-- What one look at a child shows. -/
inductive Sight where
  /-- bytes that were read from a stream -/
  | output (stream : Stream) (bytes : ByteArray)
  /-- the end of a stream -/
  | ended (stream : Stream)
  /-- the child has ended, with what came of collecting it -/
  | collected (outcome : Except OsError ExitStatus)
  /-- nothing up to the deadline -/
  | nothing

namespace Sight

/-- The sight is the end of a stream. -/
def ends (stream : Stream) : Sight → Bool
  | ended s => s == stream
  | _ => false

/-- The bytes of a stream that come with a sight. -/
def bytesOf (stream : Stream) : Sight → List UInt8
  | output s bytes => if s = stream then bytes.data.toList else []
  | _ => []

/-- What came of collecting the child. -/
def outcome? : Sight → Option (Except OsError ExitStatus)
  | collected outcome => some outcome
  | _ => none

end Sight

/-! ## What a list of sights says -/

/-- The end of a stream has been seen. -/
def endSeen (stream : Stream) (seen : List Sight) : Bool := seen.any (·.ends stream)

/-- The bytes that a stream brought in front of its end. -/
def brought (stream : Stream) (seen : List Sight) : List UInt8 :=
  (seen.takeWhile fun sight => !sight.ends stream).flatMap (·.bytesOf stream)

/-- The bytes of a stream that are kept: the first ones, up to the bound. -/
def kept (stream : Stream) (seen : List Sight) : List UInt8 :=
  (brought stream seen).take maxOutputBytes

/-- The text of a stream. -/
def said (stream : Stream) (seen : List Sight) : String := decode ⟨(kept stream seen).toArray⟩

/-- Nothing more is read from a stream: its end has been seen, or there is no space for more. -/
def streamOver (stream : Stream) (seen : List Sight) : Bool :=
  endSeen stream seen || decide (maxOutputBytes ≤ (brought stream seen).length)

/-- What came of collecting the child, once it has been collected. -/
def outcome? (seen : List Sight) : Option (Except OsError ExitStatus) :=
  (seen.filterMap Sight.outcome?).getLast?

/-- Nothing of the run is waited for any more: the child could not be collected, or it has been and
nothing more is read from either stream. -/
def concluded (seen : List Sight) : Bool :=
  match outcome? seen with
  | none => false
  | some (.error _) => true
  | some (.ok _) => streamOver .stdout seen && streamOver .stderr seen

section

variable (stream : Stream) (seen : List Sight) (sight : Sight)

@[simp] theorem endSeen_append_singleton :
    endSeen stream (seen ++ [sight]) = (endSeen stream seen || sight.ends stream) := by
  simp [endSeen]

/-- A stream brings nothing behind its end. -/
theorem brought_append_singleton :
    brought stream (seen ++ [sight]) =
      if endSeen stream seen then brought stream seen
      else brought stream seen ++ sight.bytesOf stream := by
  unfold brought endSeen
  split
  · next ended =>
    have cut : (seen.takeWhile fun sight => !sight.ends stream).length ≠ seen.length := by
      intro whole
      have all := List.takeWhile_eq_self_iff.mp
        ((List.takeWhile_prefix _).eq_of_length whole)
      obtain ⟨last, member, ends⟩ := List.any_eq_true.mp ended
      simpa [ends] using all last member
    rw [List.takeWhile_append, if_neg cut]
  · next unended =>
    have whole : seen.takeWhile (fun sight => !sight.ends stream) = seen := by
      rw [List.takeWhile_eq_self_iff]
      simpa using unended
    rw [List.takeWhile_append, if_pos (congrArg List.length whole), whole, List.flatMap_append]
    cases sight <;> simp [Sight.ends, Sight.bytesOf, List.takeWhile]
    split <;> simp

/-- A sight without bytes of a stream leaves what the stream brought. -/
theorem brought_append_of_silent (silent : sight.bytesOf stream = []) :
    brought stream (seen ++ [sight]) = brought stream seen := by
  rw [brought_append_singleton, silent, List.append_nil, ite_self]

theorem length_kept : (kept stream seen).length = min maxOutputBytes (brought stream seen).length := by
  simp [kept]

theorem kept_append_of_silent (silent : sight.bytesOf stream = []) :
    kept stream (seen ++ [sight]) = kept stream seen := by
  rw [kept, brought_append_of_silent stream seen sight silent, kept]

theorem streamOver_append_of_silent (silent : sight.bytesOf stream = []) :
    streamOver stream (seen ++ [sight]) = (streamOver stream seen || sight.ends stream) := by
  simp [streamOver, brought_append_of_silent stream seen sight silent, Bool.or_right_comm]

/-- Nothing is added to a stream from which nothing more is read. -/
theorem kept_append_of_over (done : streamOver stream seen = true) :
    kept stream (seen ++ [sight]) = kept stream seen := by
  unfold kept
  rw [brought_append_singleton]
  split
  · rfl
  · next unended =>
    have full : maxOutputBytes ≤ (brought stream seen).length := by
      simpa [streamOver, unended] using done
    exact List.take_append_of_le_length full

theorem streamOver_append_of_over (done : streamOver stream seen = true) :
    streamOver stream (seen ++ [sight]) = true := by
  simp only [streamOver, endSeen_append_singleton, Bool.or_eq_true, decide_eq_true_eq] at done ⊢
  rcases done with ended | full
  · exact Or.inl (Or.inl ended)
  · refine Or.inr (full.trans ?_)
    rw [brought_append_singleton]
    split <;> simp

/-- As long as more is read from a stream, its end has not been seen and there is space. -/
theorem streamOver_eq_false_iff :
    streamOver stream seen = false ↔
      endSeen stream seen = false ∧ (brought stream seen).length < maxOutputBytes := by
  simp [streamOver]

theorem brought_append_of_not_over (running : streamOver stream seen = false) :
    brought stream (seen ++ [sight]) = brought stream seen ++ sight.bytesOf stream := by
  rw [brought_append_singleton, ((streamOver_eq_false_iff stream seen).mp running).1]
  rfl

theorem kept_of_not_over (running : streamOver stream seen = false) :
    kept stream seen = brought stream seen :=
  List.take_of_length_le ((streamOver_eq_false_iff stream seen).mp running).2.le

@[simp] theorem outcome?_append_singleton :
    outcome? (seen ++ [sight]) = sight.outcome?.or (outcome? seen) := by
  cases sight <;> simp [outcome?, Sight.outcome?, List.filterMap_append]

end

/-- A run whose child could not be collected is over. -/
theorem concluded_of_lost {seen : List Sight} {cause : OsError}
    (fails : outcome? seen = some (.error cause)) : concluded seen = true := by
  rw [concluded, fails]

/-- A run that is over has something to say of the child. -/
theorem outcome?_ne_none_of_concluded {seen : List Sight} (done : concluded seen = true) :
    outcome? seen ≠ none := by
  intro none
  rw [concluded, none] at done
  cases done

/-- When a run is over and its child was collected, nothing more is read from either stream. -/
theorem streamOver_of_concluded {seen : List Sight} {status : ExitStatus} (done : concluded seen = true)
    (collected : outcome? seen = some (.ok status)) (stream : Stream) :
    streamOver stream seen = true := by
  rw [concluded, collected, Bool.and_eq_true] at done
  cases stream
  · exact done.1
  · exact done.2

/-! ## The watch as a summary -/

section

variable {stream : Stream} {seen : List Sight} {capture : StreamCapture}

/-- A reader has what a list of sights says of its stream. -/
structure Holds (capture : StreamCapture) (stream : Stream) (seen : List Sight) : Prop where
  bytes : capture.bytes.data.toList = kept stream seen
  ended : capture.ended = streamOver stream seen

theorem Holds.silent (holds : Holds capture stream seen) {sight : Sight}
    (silent : sight.bytesOf stream = []) (unended : sight.ends stream = false) :
    Holds capture stream (seen ++ [sight]) where
  bytes := by rw [holds.bytes, kept_append_of_silent stream seen sight silent]
  ended := by
    rw [holds.ended, streamOver_append_of_silent stream seen sight silent, unended, Bool.or_false]

theorem Holds.close (holds : Holds capture stream seen) :
    Holds capture.close stream (seen ++ [.ended stream]) where
  bytes := by rw [kept_append_of_silent stream seen _ rfl, ← holds.bytes]; rfl
  ended := by
    rw [streamOver_append_of_silent stream seen _ rfl]
    simp [StreamCapture.close, Sight.ends]

theorem toList_appendBytes (buffer bytes : ByteArray) :
    (appendBytes buffer bytes).data.toList =
      buffer.data.toList ++ bytes.data.toList.take (maxOutputBytes - buffer.data.toList.length) := by
  simp [appendBytes, ByteArray.data_extract]

theorem Holds.read (holds : Holds capture stream seen) (bytes : ByteArray) :
    Holds (capture.read bytes) stream (seen ++ [.output stream bytes]) := by
  unfold StreamCapture.read
  cases running : streamOver stream seen with
  | true =>
      rw [if_pos (holds.ended.trans running)]
      constructor
      · rw [holds.bytes, kept_append_of_over stream seen _ running]
      · rw [holds.ended, running, streamOver_append_of_over stream seen _ running]
  | false =>
      rw [if_neg (by simp [holds.ended, running])]
      have appended : (appendBytes capture.bytes bytes).data.toList =
          kept stream (seen ++ [.output stream bytes]) := by
        have whole : (brought stream seen).take maxOutputBytes = brought stream seen :=
          kept_of_not_over stream seen running
        rw [toList_appendBytes, holds.bytes, kept, kept,
          brought_append_of_not_over stream seen _ running, List.take_append, whole]
        simp [Sight.bytesOf]
      refine ⟨appended, ?_⟩
      have size : (appendBytes capture.bytes bytes).size =
          min maxOutputBytes (brought stream (seen ++ [.output stream bytes])).length := by
        rw [← length_kept, ← appended]
        rfl
      simp only [isFull, size, streamOver, endSeen_append_singleton,
        ((streamOver_eq_false_iff stream seen).mp running).1, Sight.ends, Bool.false_or, Nat.le_min,
        Nat.le_refl, true_and]

/-- A collection has what a list of sights says. -/
structure Summarises (c : Collection) (seen : List Sight) : Prop where
  outcome : c.outcome = outcome? seen
  stream : ∀ stream, Holds (c.stream stream) stream seen

theorem summarises_start : Summarises {} [] where
  outcome := rfl
  stream stream := by cases stream <;> exact ⟨rfl, rfl⟩

@[simp] theorem stream_update (c : Collection) (s t : Stream) (f : StreamCapture → StreamCapture) :
    (c.update s f).stream t = if s = t then f (c.stream t) else c.stream t := by
  cases s <;> cases t <;> rfl

@[simp] theorem outcome_update (c : Collection) (s : Stream) (f : StreamCapture → StreamCapture) :
    (c.update s f).outcome = c.outcome := by
  cases s <;> rfl

@[simp] theorem expired_update (c : Collection) (s : Stream) (f : StreamCapture → StreamCapture) :
    (c.update s f).expired = c.expired := by
  cases s <;> rfl

namespace Summarises

variable {c : Collection}

theorem complete_eq (sums : Summarises c seen) : c.complete = concluded seen := by
  have out := (sums.stream .stdout).ended
  have err := (sums.stream .stderr).ended
  simp only [Collection.stream] at out err
  rcases collected : outcome? seen with _ | _ | _ <;>
    simp [Collection.complete, concluded, sums.outcome, out, err, collected]

theorem output (sums : Summarises c seen) (stream : Stream) (bytes : ByteArray) :
    Summarises (c.update stream (·.read bytes)) (seen ++ [.output stream bytes]) where
  outcome := by simp [sums.outcome, Sight.outcome?]
  stream t := by
    rw [stream_update]
    split
    · next same => exact same ▸ (sums.stream t).read bytes
    · next other => exact (sums.stream t).silent (by simp [Sight.bytesOf, other]) rfl

theorem ended (sums : Summarises c seen) (stream : Stream) :
    Summarises (c.update stream (·.close)) (seen ++ [.ended stream]) where
  outcome := by simp [sums.outcome, Sight.outcome?]
  stream t := by
    rw [stream_update]
    split
    · next same => exact same ▸ (sums.stream t).close
    · next other => exact (sums.stream t).silent rfl (by simp [Sight.ends, other])

theorem collected (sums : Summarises c seen) (outcome : Except OsError ExitStatus) :
    Summarises { c with outcome := some outcome } (seen ++ [.collected outcome]) where
  outcome := by simp [Sight.outcome?]
  stream t := by
    have same : ({ c with outcome := some outcome } : Collection).stream t = c.stream t := by
      cases t <;> rfl
    rw [same]
    exact (sums.stream t).silent rfl rfl

theorem nothing (sums : Summarises c seen) : Summarises c (seen ++ [.nothing]) where
  outcome := by simp [sums.outcome, Sight.outcome?]
  stream t := (sums.stream t).silent rfl rfl

end Summarises

end

/-! ## What the system shows -/

section

variable {σ : Type} (platform : Platform σ) (child : Pid) (deadline : Nat)

/-- One look at a child of which some sights have been seen.  A child that has ended is collected, and
a stream from which nothing more is read is hung up. -/
def look (seen : List Sight) : StateM σ Sight := do
  match ← platform.await child (some deadline) with
  | .output stream bytes =>
    let sight := Sight.output stream bytes
    if streamOver stream (seen ++ [sight]) then platform.hangUp child stream
    pure sight
  | .ended stream => pure (.ended stream)
  | .exited => return .collected (← platform.collect child)
  | .quiet => pure .nothing

/-- Looks at a child for so many times at most, until the run is over or its deadline has passed; then
the group of the child is killed. -/
def watchFor : Nat → List Sight → StateM σ (List Sight)
  | 0, seen => pure seen
  | n + 1, seen =>
    if concluded seen then pure seen else do
      let now ← platform.clock
      if deadline ≤ now then
        let _ ← forceKillGroup platform.kill child
        pure seen
      else
        let sight ← look platform child deadline seen
        watchFor n (seen ++ [sight])

variable {platform child deadline} {c : Collection} {seen : List Sight} {state after next : σ}
variable {stream : Stream} {bytes : ByteArray} {sight : Sight} {n now : Nat}

theorem run_look_of_output (seen : List Sight)
    (awaited : (platform.await child (some deadline)).run state = (.output stream bytes, after)) :
    (look platform child deadline seen).run state =
      (.output stream bytes,
        if streamOver stream (seen ++ [.output stream bytes]) then
          ((platform.hangUp child stream).run after).2
        else after) := by
  rw [look, run_bind, awaited]
  dsimp only
  split <;> rfl

theorem run_look_of_ended (seen : List Sight)
    (awaited : (platform.await child (some deadline)).run state = (.ended stream, after)) :
    (look platform child deadline seen).run state = (.ended stream, after) := by
  rw [look, run_bind, awaited]
  rfl

theorem run_look_of_exited (seen : List Sight)
    (awaited : (platform.await child (some deadline)).run state = (.exited, after)) :
    (look platform child deadline seen).run state =
      (.collected ((platform.collect child).run after).1, ((platform.collect child).run after).2) := by
  rw [look, run_bind, awaited]
  rfl

theorem run_look_of_quiet (seen : List Sight)
    (awaited : (platform.await child (some deadline)).run state = (.quiet, after)) :
    (look platform child deadline seen).run state = (.nothing, after) := by
  rw [look, run_bind, awaited]
  rfl

theorem run_watchFor_of_concluded (done : concluded seen = true) :
    (watchFor platform child deadline (n + 1) seen).run state = (seen, state) := by
  rw [watchFor, if_pos done]
  rfl

theorem run_watchFor_of_late (running : concluded seen = false)
    (clock : platform.clock.run state = (now, after)) (late : deadline ≤ now) :
    (watchFor platform child deadline (n + 1) seen).run state =
      (seen, ((forceKillGroup platform.kill child).run after).2) := by
  rw [watchFor, if_neg (by simp [running]), run_bind, clock, if_pos late]
  rfl

theorem run_watchFor_of_early (running : concluded seen = false)
    (clock : platform.clock.run state = (now, after)) (early : now < deadline)
    (looked : (look platform child deadline seen).run after = (sight, next)) :
    (watchFor platform child deadline (n + 1) seen).run state =
      (watchFor platform child deadline n (seen ++ [sight])).run next := by
  rw [watchFor, if_neg (by simp [running]), run_bind, clock, if_neg (Nat.not_le.mpr early), run_bind,
    looked]

theorem alike_receive (sums : Summarises c seen) (running : c.expired = false) :
    Alike (fun next sight => Summarises next (seen ++ [sight]) ∧ next.expired = false)
      (platform.await child (some deadline) >>= c.receive platform child)
      (look platform child deadline seen) := by
  refine alike_bind_same _ fun news => ?_
  cases news with
  | output stream bytes =>
      have next := sums.output stream bytes
      have done := (next.stream stream).ended
      have still : (c.update stream (·.read bytes)).expired = false := by simpa using running
      dsimp only [Collection.receive]
      rw [done]
      split
      · exact alike_bind_same _ fun _ => alike_pure ⟨next, still⟩
      · exact alike_pure ⟨next, still⟩
  | ended stream => exact alike_pure ⟨sums.ended stream, by simpa using running⟩
  | exited => exact alike_bind_same _ fun outcome => alike_pure ⟨sums.collected outcome, running⟩
  | quiet => exact alike_pure ⟨sums.nothing, running⟩

/-- **The watch keeps a summary of what is seen.** -/
theorem summarises_collectFor (n : Nat) (sums : Summarises c seen) (running : c.expired = false) :
    Alike Summarises (collectFor platform child deadline n c)
      (watchFor platform child deadline n seen) := by
  induction n generalizing c seen with
  | zero => exact alike_pure sums
  | succ n ih =>
      have finished : c.finished = concluded seen := by
        rw [Collection.finished, running, sums.complete_eq, Bool.false_or]
      unfold collectFor watchFor
      rw [finished]
      split
      · exact alike_pure sums
      · refine alike_bind_same _ fun now => ?_
        split
        · exact alike_bind_same _ fun _ => alike_pure ⟨sums.outcome, sums.stream⟩
        · rw [← bind_assoc]
          refine alike_bind (alike_receive sums running) ?_
          rintro next sight ⟨later, still⟩
          exact ih later still

end

/-! ## A whole run -/

/-- What is made of a run of which this has been seen, when it took so many milliseconds. -/
def verdict (seen : List Sight) (elapsedMs : Nat) : Except ScriptError CapturedOutput :=
  match concluded seen, outcome? seen with
  | true, some (.ok status) => .ok {
      stdout := said .stdout seen, stderr := said .stderr seen, exitCode := exitCodeOf status }
  | true, some (.error cause) => .error (.io cause)
  | _, _ => .error (.timeout elapsedMs)

theorem said_of_holds {capture : StreamCapture} {stream : Stream} {seen : List Sight}
    (holds : Holds capture stream seen) : decode capture.bytes = said stream seen := by
  rw [said, ← holds.bytes]

theorem conclude_eq {c : Collection} {seen : List Sight} (sums : Summarises c seen) (elapsedMs : Nat) :
    c.conclude elapsedMs = verdict seen elapsedMs := by
  have out := said_of_holds (sums.stream .stdout)
  have err := said_of_holds (sums.stream .stderr)
  rw [Collection.conclude, sums.complete_eq, sums.outcome, verdict]
  cases concluded seen
  · rfl
  · rcases outcome? seen with _ | _ | status
    · rfl
    · rfl
    · simp only [Collection.stream] at out err
      simp [out, err]

section

variable {σ : Type}

/-- Lets a child go, and gives the milliseconds that have passed since a time on the clock. -/
def letGo (platform : Platform σ) (child : Pid) (start : Nat) : StateM σ Nat := do
  platform.release child
  let stop ← platform.clock
  pure ((stop - start) / nanosPerMilli)

variable {platform : Platform σ} {program : OsText} {arguments : List OsText} {timeout : Duration}
variable {state after final : σ} {start begun : Nat} {child : Pid} {seen : List Sight}

/-- A program that cannot be started is blamed for that. -/
theorem run_runProgram_of_notStarted {cause : OsError}
    (fails : ((platform.launch ⟨program, arguments, true⟩).run (platform.clock.run state).2).1 =
      .error cause) :
    ((runProgram platform program arguments timeout).run state).1 =
      .error (.ofLaunch program.display cause) := by
  unfold runProgram
  rw [run_bind, run_bind, fails]
  rfl

/-- **A run gives the verdict on what the watch has shown** up to the deadline, which counts from the moment at
which the child is there. -/
theorem run_runProgram_of_starts
    (starts : platform.Starts ⟨program, arguments, true⟩ state start child begun after)
    (watched : (watchFor platform child (begun + timeout.nanoseconds) collectBound []).run after =
      (seen, final)) :
    (runProgram platform program arguments timeout).run state =
      (verdict seen ((letGo platform child start).run final).1,
        ((letGo platform child start).run final).2) := by
  obtain ⟨before, behind, clock, launched, counted⟩ := starts
  have alike : Alike Summarises
      (collectFor platform child (begun + timeout.nanoseconds) collectBound {})
      (watchFor platform child (begun + timeout.nanoseconds) collectBound []) :=
    summarises_collectFor collectBound summarises_start rfl
  obtain ⟨sums, same⟩ := alike after
  rw [watched] at sums same
  unfold runProgram
  rw [run_bind, clock, run_bind, launched]
  dsimp only
  rw [run_bind, counted, run_bind, same, ← conclude_eq sums]
  rfl

end

end Overseer.Script
