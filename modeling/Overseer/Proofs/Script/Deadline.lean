import Overseer.Proofs.Script.Truncation
import Overseer.Proofs.Script.Watching
import Overseer.Proofs.Supervision.Courses

/-!
# The deadline covers the whole run

A run has one deadline for the end of its child and for both readers, and it makes no difference which of
the three keeps it waiting.  `deadline_covers_run` says what a run gives whose child follows a timeline, and
which kills it asks the system for: one kill of the group at the deadline when the run is not over by then,
and none otherwise.

The kills are seen on a system that notes them, on which a run does what it does otherwise
(`shadows_runProgram`).
-/

namespace Overseer.Script

open Overseer.Capture Overseer.Processes Overseer.Text Overseer.Time

/-! ## The notes of a run -/

section

variable {σ : Type} (platform : Platform σ) (child : Pid)

theorem shadows_receive (c : Collection) (news : News) :
    Shadows (c.receive platform.noting child news) (c.receive platform child news) := by
  cases news with
  | output stream bytes =>
      unfold Collection.receive
      dsimp only
      split
      · exact shadows_bind (shadows_besideNotes _) fun _ => shadows_pure _
      · exact shadows_pure _
  | ended stream => exact shadows_pure _
  | exited => exact shadows_bind (shadows_besideNotes _) fun _ => shadows_pure _
  | quiet => exact shadows_pure _

theorem shadows_collectFor (deadline n : Nat) (c : Collection) :
    Shadows (collectFor platform.noting child deadline n c)
      (collectFor platform child deadline n c) := by
  induction n generalizing c with
  | zero => exact shadows_pure c
  | succ n ih =>
      unfold collectFor
      split
      · exact shadows_pure c
      · refine shadows_bind (shadows_besideNotes _) fun now => ?_
        split
        · exact shadows_bind (shadows_forceKillGroup platform child) fun _ => shadows_pure _
        · refine shadows_bind (shadows_besideNotes _) fun news => ?_
          exact shadows_bind (shadows_receive platform child c news) fun c => ih c

/-- A run whose kills are noted is the run that it is otherwise. -/
theorem shadows_runProgram (program : OsText) (arguments : List OsText) (timeout : Duration) :
    Shadows (runProgram platform.noting program arguments timeout)
      (runProgram platform program arguments timeout) := by
  unfold runProgram
  refine shadows_bind (shadows_besideNotes _) fun start => ?_
  refine shadows_bind (shadows_besideNotes _) fun answer => ?_
  cases answer with
  | error cause => exact shadows_pure _
  | ok child =>
      refine shadows_bind (shadows_besideNotes _) fun begun => ?_
      refine shadows_bind (shadows_collectFor platform child _ _ _) fun c => ?_
      refine shadows_bind (shadows_besideNotes _) fun _ => ?_
      exact shadows_bind (shadows_besideNotes _) fun stop => shadows_pure _

end

/-! ## A run -/

section

variable {σ : Type} {platform : Platform σ} {program : OsText} {arguments : List OsText}
variable {timeout : Duration} {timeline : Timeline} {state : σ} {child : Pid} {begun : Nat}
variable {describes : σ → Moment → Prop}

/-- **A system enacts a timeline**: from a state on, a launch gives a child that follows the timeline, which
begins on the clock when the child is there, and nothing more is shown of a stream that is hung up. -/
structure Enacts (platform : Platform σ) (launch : Launch) (timeline : Timeline) (state : σ)
    (child : Pid) (begun : Nat) (describes : σ → Moment → Prop) : Prop where
  begins : ∃ start after, platform.Starts launch state start child begun after ∧
    describes after timeline.begin
  follows : Follows platform child launch.ownGroup begun describes
  hangsUp : HangsUp platform child describes

theorem outstanding_begin_lt (timeline : Timeline) (limit : Nat) :
    outstanding limit [] timeline.begin < collectBound := by
  have looks : ∀ s, looksAt s [] = maxOutputBytes + 1 := fun s => rfl
  have ahead := Bool.toNat_le (decide (timeline.begin.now < limit))
  have untold : timeline.begin.told = false := rfl
  have bound : 2 * (maxOutputBytes + 1) + 2 < collectBound := by decide
  rw [outstanding, looks, looks, untold, Bool.not_false, Bool.toNat_true]
  omega

/-- **The deadline covers the whole run.**  A child ends, and the readers of its streams are done, at
any times and in any order, or never, but not just at the deadline.

If the last of these things comes behind the deadline, the run has timed out, and the only kill is one of
the group of the child at the deadline, whether or not the child has ended before.  Otherwise there is no
kill, and the run gives the exit code of the child, or `-1` if a signal ended it, and what may be kept of
both streams. -/
theorem deadline_covers_run
    (enacts : Enacts platform ⟨program, arguments, true⟩ timeline state child begun describes)
    (filled : timeline.emissions.Filled) (exitApart : timeline.exitAt ≠ timeout.nanoseconds)
    (readApart : ∀ s, timeline.readAt s ≠ timeout.nanoseconds) :
    ∃ result after notes,
      (runProgram platform program arguments timeout).run state = (result, after) ∧
      (runProgram platform.noting program arguments timeout).run (state, []) =
        (result, after, notes) ∧
      ((∃ elapsedMs, result = .error (.timeout elapsedMs)) ↔
        timeout.nanoseconds < timeline.settledAt) ∧
      (timeout.nanoseconds < timeline.settledAt →
        notes = [⟨begun + timeout.nanoseconds, -(child.toNat : Int)⟩]) ∧
      (timeline.settledAt ≤ timeout.nanoseconds →
        notes = [] ∧ ∃ time status, timeline.ending = some (time, status) ∧
          result = .ok {
            stdout := truncated (timeline.emissions.bytesOf .stdout)
            stderr := truncated (timeline.emissions.bytesOf .stderr)
            exitCode := (status.code?.map (·.toInt)).getD (-1) }) := by
  obtain ⟨⟨start, first, starts, begins⟩, follows, hangsUp⟩ := enacts
  obtain ⟨seen, final, notes, watched, ends⟩ := watchEnds_watchFor follows hangsUp filled
    exitApart readApart (.begin timeline) (Nat.zero_le _) (outstanding_begin_lt timeline _) begins []
  obtain ⟨⟨elapsedMs, last⟩, released⟩ : ∃ r, (letGo platform.noting child start).run
      (final, [] ++ notes) = r := ⟨_, rfl⟩
  have noted := run_runProgram_of_starts (starts.noting []) watched
  -- Nothing is noted behind the watch.
  have silent : last.2 = notes := congrArg (fun r => r.2.2) released.symm
  rw [released] at noted
  obtain ⟨more, ran⟩ := shadows_runProgram platform program arguments timeout state []
  rcases plain : (runProgram platform program arguments timeout).run state with ⟨result, after⟩
  rw [plain] at ran
  have same := noted.symm.trans ran
  obtain rfl : verdict seen elapsedMs = result := congrArg Prod.fst same
  obtain rfl : notes = more := silent.symm.trans (congrArg (fun r => r.2.2) same)
  refine ⟨_, after, notes, rfl, ran, ?_⟩
  cases ends with
  | @whole time status inTime done ending outcome bytes =>
      have said : ∀ s, said s seen = truncated (timeline.emissions.bytesOf s) := fun s => by
        rw [said, bytes s, truncated]
      have code : exitCodeOf status = (status.code?.map (·.toInt)).getD (-1) := by
        cases status <;> rfl
      refine ⟨⟨?_, fun late => absurd late inTime.not_gt⟩, fun late => absurd late inTime.not_gt, ?_⟩
      · rintro ⟨_, result⟩
        simp [verdict, done, outcome] at result
      · intro _
        refine ⟨rfl, time, status, ending, ?_⟩
        simp only [verdict, done, outcome, said, code]
  | late late running =>
      refine ⟨⟨fun _ => late, fun _ => ⟨elapsedMs, ?_⟩⟩, fun _ => rfl, fun inTime => ?_⟩
      · simp only [verdict, running]
      · exact absurd inTime late.not_ge

/-- A system whose states are moments of its one child, and which shows nothing more of a stream that is
hung up. -/
def listening : Platform Moment where
  clock := stage.clock
  timeOfDay := stage.timeOfDay
  launch := stage.launch
  await := stage.await
  collect := stage.collect
  kill := stage.kill
  hangUp _ s m := ((), { m with upcoming := m.upcoming.without s })
  release := stage.release

theorem enacts_listening (launch : Launch) (timeline : Timeline) :
    Enacts listening launch timeline timeline.begin 2 0 fun s m => s = m ∧ m.upcoming.InOrder := by
  have follows := follows_stage launch.ownGroup
  refine ⟨⟨0, _, ⟨_, _, rfl, rfl, rfl⟩, rfl, timeline.ordered⟩, ?_, ?_⟩
  · exact ⟨follows.pid, follows.clock, follows.await, follows.collect, follows.kill,
      follows.killGroup, follows.release⟩
  · rintro state m s ⟨rfl, sorted⟩
    exact ⟨rfl, sorted.sublist List.filter_sublist⟩

theorem filled_lingering : lingering.emissions.Filled := by
  intro time s bytes member
  obtain ⟨-, -, rfl⟩ | ⟨-, -, rfl⟩ : time = 900000 ∧ s = .stdout ∧ bytes = "now\n".toUTF8 ∨
      time = 1001000000 ∧ s = .stdout ∧ bytes = "late\n".toUTF8 := by
    simpa [lingering] using member
  · decide
  · decide

/-- A child that has ended within a millisecond has its group killed after half a second, since a
descendant holds the streams for a whole one.  With half a minute there is no kill, and the output is
whole. -/
theorem deadline_covers_lingering :
    (∃ elapsedMs after, (runProgram listening.noting (.ofString "linger") []
        { secs := 0, nanos := 500000000 }).run (lingering.begin, []) =
          (.error (.timeout elapsedMs), after, [⟨500000000, -2⟩])) ∧
    ∃ after, (runProgram listening.noting (.ofString "linger") [] (.ofSecs 30)).run
        (lingering.begin, []) =
          (.ok { stdout := "now\nlate\n", stderr := "", exitCode := 0 }, after, []) := by
  constructor
  · obtain ⟨result, after, notes, -, ran, timedOut, killed, -⟩ :=
      @deadline_covers_run _ listening (.ofString "linger") [] { secs := 0, nanos := 500000000 }
        lingering lingering.begin 2 0 _ (enacts_listening _ lingering) filled_lingering
        (by decide +kernel) (by intro s; cases s <;> decide +kernel)
    obtain ⟨elapsedMs, rfl⟩ := timedOut.mpr (by decide +kernel)
    obtain rfl := killed (by decide +kernel)
    exact ⟨elapsedMs, after, ran⟩
  · obtain ⟨result, after, notes, -, ran, -, -, whole⟩ :=
      @deadline_covers_run _ listening (.ofString "linger") [] (.ofSecs 30)
        lingering lingering.begin 2 0 _ (enacts_listening _ lingering) filled_lingering
        (by decide +kernel) (by intro s; cases s <;> decide +kernel)
    obtain ⟨rfl, time, status, ending, rfl⟩ := whole (by decide +kernel)
    obtain ⟨rfl, rfl⟩ : 1000000 = time ∧ ExitStatus.code 0 = status := by
      simpa [lingering] using ending
    have out : truncated (lingering.emissions.bytesOf .stdout) = "now\nlate\n" := by decide +kernel
    have err : truncated (lingering.emissions.bytesOf .stderr) = "" := by decide +kernel
    rw [out, err] at ran
    exact ⟨after, ran⟩

end

end Overseer.Script
