import Overseer.Proofs.Supervision.Launches
import Overseer.Proofs.Supervision.TimedRuns

/-!
# The timeline determines the outcome of a call

A call has three timers, the deadline, the last resort and the grace time of the capture, and three things
happen to it in their own time, the end of the child and the ends of its two streams.  Whatever the order
in which these come, the timeline determines the outcome (`execution_of_timeline`): whether the call counts
as timed out and how the child ended depend on the end of the child alone, and the streams decide only how
long the call takes and whether the texts are complete.

There is one exception.  A call with so much time that no grace time fits in behind it breaks off when its
child has been started, so it is not true that every timeline leads to a result (`lingering_breaks_off`).
-/

namespace Overseer

open Overseer.Os Overseer.Processes Overseer.Time

/-- When a child is gone that has so much time: when it has ended, or else when its time is over. -/
noncomputable def Timeline.goneAt (timeline : Timeline) (timeout : Nat) : ℕ∞ :=
  min timeline.exitAt timeout

/-- **What a timeline makes of a call** that takes so long and has this result.  The call takes until both
streams have ended, but not beyond the grace time behind the end of the child. -/
structure Determines (timeline : Timeline) (timeout took : Nat) (result : ExecutionResult) : Prop where
  timedOut : result.status.timedOut = true ↔ (timeout : ℕ∞) < timeline.exitAt
  inTime : ∀ time status, timeline.ending = some (time, status) → time < timeout →
    result.status.exitCode = status.code? ∧ result.status.signal = status.signal?
  late : (timeout : ℕ∞) < timeline.exitAt →
    result.status.exitCode = none ∧ result.status.signal = some ExitStatus.killSignal
  took : (took : ℕ∞) = min (timeline.goneAt timeout + drainGrace.nanoseconds)
    (max (timeline.goneAt timeout)
      (max (timeline.emissions.endOf .stdout) (timeline.emissions.endOf .stderr)))
  whole : timeline.emissions.endOf .stdout < timeline.goneAt timeout + drainGrace.nanoseconds →
    timeline.emissions.endOf .stderr < timeline.goneAt timeout + drainGrace.nanoseconds →
    result.stdout = wholeText (timeline.emissions.bytesOf .stdout) ∧
      result.stderr = wholeText (timeline.emissions.bytesOf .stderr)

section

variable {timeline : Timeline} {timeout began : Nat} {outcome : Except OsError ExitStatus}
variable {watchdog : Watchdog} {s : Supervision} {last : Moment}

theorem EndsDraining.took
    (ends : EndsDraining timeline began (began + drainGrace.nanoseconds) outcome watchdog s last)
    (gone : timeline.goneAt timeout = began) :
    (last.now : ℕ∞) = min (timeline.goneAt timeout + drainGrace.nanoseconds)
      (max (timeline.goneAt timeout)
        (max (timeline.emissions.endOf .stdout) (timeline.emissions.endOf .stderr))) := by
  rw [gone, ends.time, Nat.cast_add, Timeline.drainedAt]

theorem EndsDraining.whole
    (ends : EndsDraining timeline began (began + drainGrace.nanoseconds) outcome watchdog s last)
    (gone : timeline.goneAt timeout = began)
    (out : timeline.emissions.endOf .stdout < timeline.goneAt timeout + drainGrace.nanoseconds)
    (err : timeline.emissions.endOf .stderr < timeline.goneAt timeout + drainGrace.nanoseconds) :
    s.seen.stdout = wholeText (timeline.emissions.bytesOf .stdout) ∧
      s.seen.stderr = wholeText (timeline.emissions.bytesOf .stderr) := by
  rw [gone, ← Nat.cast_add] at out err
  have texts := ends.texts (max_lt out err)
  exact ⟨texts .stdout, texts .stderr⟩

theorem determines_report (concludes : Concludes timeline timeout s last) (child : Pid)
    (startedAt : Timestamp) (runtimeMs : UInt64) :
    Determines timeline timeout last.now (report child startedAt runtimeMs s.seen) := by
  cases concludes with
  | @inTime time status ending early ends =>
      have exit : timeline.exitAt = time := by rw [Timeline.exitAt, ending]
      have gone : timeline.goneAt timeout = time := by
        rw [Timeline.goneAt, exit, min_eq_left (Nat.cast_le.mpr early.le)]
      have outcome : s.seen.outcome = .ok status := by
        rw [Supervision.seen, ends.outcome, Option.getD_some]
      refine ⟨?_, ?_, ?_, ends.took gone, ends.whole gone⟩
      · simp [report, Supervision.seen, Control.timedOut, ends.watchdog, exit, early.le]
      · intro time' status' ending' _
        obtain ⟨rfl, rfl⟩ : time = time' ∧ status = status' := by simpa [ending] using ending'
        simp [report, outcome, Except.toOption]
      · intro late
        rw [exit, Nat.cast_lt] at late
        omega
  | timedOut late ends =>
      have gone : timeline.goneAt timeout = timeout := min_eq_right late.le
      have outcome : s.seen.outcome = .ok (.signal ExitStatus.killSignal) := by
        rw [Supervision.seen, ends.outcome, Option.getD_some]
      refine ⟨?_, ?_, ?_, ends.took gone, ends.whole gone⟩
      · simp [report, Supervision.seen, Control.timedOut, ends.watchdog, late]
      · intro time status ending early
        rw [Timeline.exitAt, ending, Nat.cast_lt] at late
        omega
      · intro _
        simp [report, outcome, Except.toOption, ExitStatus.code?, ExitStatus.signal?]

end

section

variable {σ : Type} {platform : Platform σ} {spec : CommandSpec} {timeline : Timeline} {state : σ}
variable {begun steps : Nat}

/-- **Descendants that hold the streams affect the output alone.**  A call with some time to run, for a
child that follows a timeline and does not end just at the deadline, has the outcome that the timeline
determines, whether the child shares the group of the caller or leads its own.  Its times are counted from
the moment at which the child is there, however long the launch has taken.  Only when the last resort has no
deadline, the call breaks off.  Each thing that comes out of the streams takes a step of the
supervision, and everything else takes eight at most. -/
theorem execution_of_timeline (time : spec.timeout ≠ .zero)
    (plays : Plays platform spec.toLaunch timeline begun (platform.timeOfDay.run state).2)
    (apart : timeline.exitAt ≠ spec.timeout.nanoseconds)
    (enough : timeline.emissions.length + 8 ≤ steps) :
    (spec.timeout.add? killGrace = none →
      ((executeFor steps platform spec).run state).1 = .brokeOff) ∧
    (spec.timeout.add? killGrace ≠ none → ∃ result last took,
      (executeFor steps platform spec).run state = (.finished result, last) ∧
      (platform.clock.run last).1 = begun + took ∧
      Determines timeline spec.timeout.nanoseconds took result) := by
  obtain ⟨start, child, after, describes, ⟨before, behind, clock, launched, counted⟩, described, follows⟩ :=
    plays
  have launched : (launchAnswer platform spec).run state = (.ok child, behind) := by
    rw [launchAnswer, run_bind, run_bind, clock, launched]
  have valid := CommandSpec.validate_eq_ok_iff.mpr time
  have answer := congrArg Prod.fst launched
  refine ⟨run_executeFor_of_no_lastResort _ valid answer, fun room => ?_⟩
  obtain ⟨lastResort, sum⟩ := Option.ne_none_iff_exists'.mp room
  have later : spec.timeout.nanoseconds < lastResort.nanoseconds := by
    have grace : 0 < killGrace.nanoseconds := by decide
    have total := Duration.nanoseconds_of_ofNanoseconds? sum
    omega
  rw [run_executeFor_of_lastResort _ valid answer sum, launched]
  dsimp only [supervise]
  rw [run_bind, counted]
  have ends := endsIn_of_running follows (n := steps)
    (c := { deadline := _, lastResort := _, detached := spec.detached })
    ⟨rfl, rfl, rfl, rfl, rfl⟩ rfl rfl rfl later rfl apart (.begin timeline) rfl rfl (Nat.zero_le _)
    (by simp [Timeline.begin]) enough
  obtain ⟨last, described, concludes⟩ := ends _ described
  have released := follows.release _ _ described
  obtain ⟨stopped, described⟩ := follows.clock _ _ released
  refine ⟨_, _, last.now, rfl, (follows.clock _ _ described).1, ?_⟩
  exact determines_report concludes child _ _

end

/-- A child that writes a line and ends within a millisecond.  It leaves a descendant behind that holds
both streams for another second and writes a line then. -/
def lingering : Timeline where
  ending := some (1000000, .code 0)
  emissions := [(900000, .output .stdout "now\n".toUTF8),
    (1001000000, .output .stdout "late\n".toUTF8), (1001000000, .ended .stdout),
    (1001000000, .ended .stderr)]
  ordered := by simp [Emissions.InOrder]
  closed := by simp [Emission.ends, Emission.stream]

/-- Its command, with the given time. -/
def lingeringSpec (timeout : Duration) : CommandSpec :=
  { command := "(sleep 1; echo late) & echo now", timeout }

/-- A call with half a minute takes as long as the descendant, and has both lines. -/
theorem execution_of_lingering : ∃ result last,
    (executeFor 12 stage (lingeringSpec (.ofSecs 30))).run lingering.begin =
      (.finished result, last) ∧
    result.status.timedOut = false ∧ result.status.exitCode = some 0 ∧ last.now = 1001000000 ∧
    result.stdout = "now\nlate" := by
  obtain ⟨result, last, took, ran, clock, determines⟩ :=
    (@execution_of_timeline _ stage (lingeringSpec (.ofSecs 30)) lingering lingering.begin 0 12
      (by decide) (plays_stage _ _) (by decide +kernel) (by decide)).2 (by decide)
  have duration : took = 1001000000 :=
    Nat.cast_injective (determines.took.trans (by decide +kernel))
  have now : last.now = 0 + took := clock
  refine ⟨result, last, ran, ?_, ?_, by omega, ?_⟩
  · rw [Bool.eq_false_iff, Ne, determines.timedOut]
    decide +kernel
  · exact (determines.inTime 1000000 (.code 0) rfl (by decide)).1
  · have text : wholeText (lingering.emissions.bytesOf .stdout) = "now\nlate" := by decide +kernel
    exact ((determines.whole (by decide +kernel) (by decide +kernel)).1).trans text

/-- **A call that is given nearly all the time there is may have no result at all**: its child runs, but
the last resort has no deadline. -/
theorem lingering_breaks_off : ¬∀ (σ : Type) (platform : Platform σ) (spec : CommandSpec)
    (timeline : Timeline) (begun : Nat) (state : σ) (steps : Nat), spec.timeout ≠ .zero →
    Plays platform spec.toLaunch timeline begun (platform.timeOfDay.run state).2 →
    timeline.exitAt ≠ spec.timeout.nanoseconds → timeline.emissions.length + 8 ≤ steps →
    ∃ result last took, (executeFor steps platform spec).run state = (.finished result, last) ∧
      (platform.clock.run last).1 = begun + took ∧
      Determines timeline spec.timeout.nanoseconds took result := by
  intro finishes
  obtain ⟨result, last, -, ran, -⟩ :=
    finishes _ stage (lingeringSpec (.ofSecs 18446744073709551615)) lingering 0 lingering.begin 12
      (by decide) (plays_stage _ _) (by decide +kernel) (by decide)
  have breaks : ((executeFor 12 stage (lingeringSpec (.ofSecs 18446744073709551615))).run
      lingering.begin).1 = .brokeOff :=
    run_executeFor_of_no_lastResort _ (CommandSpec.validate_eq_ok_iff.mpr (by decide)) rfl (by decide)
  rw [ran] at breaks
  cases breaks

end Overseer
