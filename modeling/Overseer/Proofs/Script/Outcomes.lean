import Overseer.Proofs.Script.Calls
import Overseer.Proofs.Script.Looks
import Overseer.Proofs.Text.Decoding

/-!
# How the run of a script ends

Many things can keep a script from giving its output, and more than one of them may happen.  The rules
of `ScriptCall.Ends` say which of them counts, the first one in the order of the run: no time, a script
that could not be written, an interpreter that could not be started, a child that could not be collected
before its deadline, a deadline that passed, an exit code other than 0, something on the standard error
output.  Only a run to which none of this happened gives its standard output.

The deadline counts from the moment at which the child is there.  A run is overdue when the clock has
reached it and the child or one of its streams is still waited for.  A child that cannot be collected ends
its run at once, before the deadline and whatever its streams do (`lost_wait_is_no_timeout`).

`ScriptCall.after_eq_iff_ends` says that the rules and the run agree: every run ends by one of the rules,
and what a rule says is what the run gives.  The rules know nothing of the bound on the looks of a watch, so
this is about calls whose child is seen to the end of its run (`ScriptCall.InSight`), which it is on every
system that does not repeat itself (`ScriptCall.inSight_of_showsNews`).
-/

namespace Overseer.Script

open Overseer.Host Overseer.Os Overseer.Processes Overseer.Time

/-- A stream has no text exactly when it brought nothing. -/
theorem said_eq_empty_iff {stream : Stream} {seen : List Sight} :
    said stream seen = "" ↔ brought stream seen = [] := by
  rw [said, Text.decode_eq_empty_iff, kept, List.take_eq_nil_iff]
  exact or_iff_right (by decide)

/-! ## What is made of a captured output -/

section

variable {out err : String} {code : Int}

theorem judge_of_exitCode_ne_zero (bad : code ≠ 0) :
    judge ⟨out, err, code⟩ = .error (.executionFailed code err) :=
  if_pos bad

theorem judge_of_stderr_ne_empty (noise : err ≠ "") :
    judge ⟨out, err, 0⟩ = .error (.errorOutput err) :=
  if_pos noise

theorem judge_of_clean : judge ⟨out, "", 0⟩ = .ok out :=
  rfl

/-- Only what a clean run wrote is a result. -/
theorem judge_eq_ok_iff {text : String} :
    judge ⟨out, err, code⟩ = .ok text ↔ code = 0 ∧ err = "" ∧ out = text := by
  by_cases bad : code = 0
  · subst bad
    by_cases noise : err = ""
    · subst noise
      simp [judge_of_clean]
    · simp [judge_of_stderr_ne_empty noise, noise]
  · simp [judge_of_exitCode_ne_zero bad, bad]

end

theorem exitCodeOf_code_ne_zero {code : Int32} (bad : code ≠ 0) : exitCodeOf (.code code) ≠ 0 := by
  intro zero
  exact bad (Int32.toInt_inj.mp zero)

namespace ScriptCall

variable {σ : Type} (call : ScriptCall σ)

/-- The launch of the interpreter on a script. -/
def launch (script : EphemeralScript) : Launch where
  program := call.runner.interpreter
  arguments := call.arguments script
  ownGroup := true

/-- The script was written, and the interpreter could not be started on it. -/
def NotStarted (cause : OsError) : Prop :=
  call.timeoutSecs ≠ 0 ∧ ∃ script files, call.written = (.ok script, files) ∧
    ((call.platform.launch (call.launch script)).run
      (call.platform.clock.run (files, call.rest)).2).1 = .error cause

/-- The script was written, and the interpreter was started on it: the clock stood at `start` before the launch,
and the deadline is the time of the call behind the moment at which the child was there. -/
def Started (start : Nat) (child : Pid) (deadline : Nat) (first : FileTree × σ) : Prop :=
  call.timeoutSecs ≠ 0 ∧ ∃ script files begun, call.written = (.ok script, files) ∧
    call.platform.Starts (call.launch script) (files, call.rest) start child begun first ∧
    deadline = begun + (Duration.ofSecs call.timeoutSecs).nanoseconds

/-- The interpreter was started, and this was seen of it before the deadline. -/
def Saw (start : Nat) (child : Pid) (deadline : Nat) (seen : List Sight) (state : FileTree × σ) : Prop :=
  ∃ first, call.Started start child deadline first ∧
    Looks call.platform child deadline first seen state

/-- The child is seen to the end of its run: no watch has to look at it more often than it may. -/
def InSight : Prop :=
  ∀ start child deadline seen state, call.Saw start child deadline seen state →
    seen.length < collectBound

/-- **The ways in which a call ends.** -/
inductive Ends : Except ScriptError String → Prop
  /-- it was given no time -/
  | noTime (none : call.timeoutSecs = 0) : Ends (.error .invalidTimeout)
  /-- the script could not be written, whatever the kind of the cause -/
  | notWritten {cause : OsError} (time : call.timeoutSecs ≠ 0)
      (fails : call.written.1 = .error cause) : Ends (.error (.io cause))
  /-- the interpreter was not found -/
  | notFound {cause : OsError} (fails : call.NotStarted cause)
      (kind : cause.kind = .notFound) : Ends (.error (.notFound call.runner.interpreter.display))
  /-- the interpreter may not be executed -/
  | denied {cause : OsError} (fails : call.NotStarted cause)
      (kind : cause.kind = .permissionDenied) :
      Ends (.error (.permissionDenied call.runner.interpreter.display))
  /-- the interpreter could not be started for another reason -/
  | notStarted {cause : OsError} (fails : call.NotStarted cause)
      (found : cause.kind ≠ .notFound) (allowed : cause.kind ≠ .permissionDenied) :
      Ends (.error (.io cause))
  /-- the child could not be collected, which was seen before the deadline -/
  | lost {start deadline : Nat} {child : Pid} {seen : List Sight} {state : FileTree × σ}
      {cause : OsError} (saw : call.Saw start child deadline seen state)
      (fails : outcome? seen = some (.error cause)) : Ends (.error (.io cause))
  /-- the clock has reached the deadline, and the child or one of its streams is still waited for -/
  | overdue {start deadline now : Nat} {child : Pid} {seen : List Sight}
      {state after : FileTree × σ} (saw : call.Saw start child deadline seen state)
      (awaited : concluded seen = false)
      (clock : call.platform.clock.run state = (now, after)) (late : deadline ≤ now) :
      Ends (.error (.timeout ((letGo call.platform child start).run
        ((forceKillGroup call.platform.kill child).run after).2).1))
  /-- the child ended with a code other than 0, and its streams as well before the deadline -/
  | failed {start deadline : Nat} {child : Pid} {seen : List Sight} {state : FileTree × σ}
      {code : Int32} (saw : call.Saw start child deadline seen state)
      (done : concluded seen = true) (ended : outcome? seen = some (.ok (.code code)))
      (bad : code ≠ 0) : Ends (.error (.executionFailed code.toInt (said .stderr seen)))
  /-- a signal ended the child, and its streams ended as well before the deadline -/
  | killed {start deadline : Nat} {child : Pid} {seen : List Sight} {state : FileTree × σ}
      {signal : Int32} (saw : call.Saw start child deadline seen state)
      (done : concluded seen = true) (ended : outcome? seen = some (.ok (.signal signal))) :
      Ends (.error (.executionFailed (-1) (said .stderr seen)))
  /-- the child ended with code 0, but something was on its standard error output -/
  | complained {start deadline : Nat} {child : Pid} {seen : List Sight} {state : FileTree × σ}
      (saw : call.Saw start child deadline seen state) (done : concluded seen = true)
      (ended : outcome? seen = some (.ok (.code 0))) (noise : brought .stderr seen ≠ []) :
      Ends (.error (.errorOutput (said .stderr seen)))
  /-- none of this happened -/
  | good {start deadline : Nat} {child : Pid} {seen : List Sight} {state : FileTree × σ}
      (saw : call.Saw start child deadline seen state) (done : concluded seen = true)
      (ended : outcome? seen = some (.ok (.code 0))) (quiet : brought .stderr seen = []) :
      Ends (.ok (said .stdout seen))

/-! ### What a call gives -/

section

variable {call} {start now deadline : Nat} {child : Pid} {seen : List Sight}
variable {state after first : FileTree × σ} {cause : OsError}

/-- An interpreter that cannot be started is blamed for that. -/
theorem after_of_fails (fails : call.NotStarted cause) :
    call.after.1 = .error (.ofLaunch call.runner.interpreter.display cause) := by
  obtain ⟨time, script, files, made, fails⟩ := fails
  rw [after_of_written time made, ran, run_runProgram_of_notStarted fails]
  rfl

/-- A script whose interpreter was started is judged by what the watch has seen. -/
theorem after_of_watched (started : call.Started start child deadline first)
    (watched : (watchFor call.platform child deadline collectBound []).run first = (seen, state)) :
    call.after.1 = (verdict seen ((letGo call.platform child start).run state).1).bind judge := by
  obtain ⟨time, script, files, begun, made, starts, rfl⟩ := started
  rw [after_of_written time made, ran, run_runProgram_of_starts starts watched]

/-- What is made of a run in which everything has been seen. -/
theorem after_of_concluded (saw : call.Saw start child deadline seen state)
    (within : seen.length ≤ collectBound) (done : concluded seen = true) :
    call.after.1 = (verdict seen ((letGo call.platform child start).run state).1).bind judge := by
  obtain ⟨first, started, looks⟩ := saw
  exact after_of_watched started (looks.run_watchFor_of_concluded done within)

/-- What is made of a run that is over and whose child was collected. -/
theorem after_of_collected {status : ExitStatus} (saw : call.Saw start child deadline seen state)
    (within : seen.length ≤ collectBound) (done : concluded seen = true)
    (ended : outcome? seen = some (.ok status)) :
    call.after.1 = judge ⟨said .stdout seen, said .stderr seen, exitCodeOf status⟩ := by
  rw [after_of_concluded saw within done, verdict, done, ended]
  rfl

/-- What is made of a run whose child could not be collected. -/
theorem after_of_lost (saw : call.Saw start child deadline seen state)
    (within : seen.length ≤ collectBound) (fails : outcome? seen = some (.error cause)) :
    call.after.1 = .error (.io cause) := by
  rw [after_of_concluded saw within (concluded_of_lost fails), verdict, concluded_of_lost fails, fails]
  rfl

/-- What is made of a run that is not over at the deadline. -/
theorem after_of_overdue (saw : call.Saw start child deadline seen state)
    (within : seen.length < collectBound) (awaited : concluded seen = false)
    (clock : call.platform.clock.run state = (now, after)) (late : deadline ≤ now) :
    call.after.1 = .error (.timeout ((letGo call.platform child start).run
      ((forceKillGroup call.platform.kill child).run after).2).1) := by
  obtain ⟨first, started, looks⟩ := saw
  rw [after_of_watched started (looks.run_watchFor_of_late awaited clock late within), verdict, awaited]
  rfl

/-- A script that was written is one on which the interpreter was started, or could not be. -/
theorem notStarted_or_started (time : call.timeoutSecs ≠ 0) {script : EphemeralScript} {files : FileTree}
    (made : call.written = (.ok script, files)) :
    (∃ cause, call.NotStarted cause) ∨ ∃ start child deadline first,
      call.Started start child deadline first := by
  obtain ⟨⟨answer, behind⟩, launched⟩ : ∃ launched, (call.platform.launch (call.launch script)).run
      (call.platform.clock.run (files, call.rest)).2 = launched := ⟨_, rfl⟩
  cases answer with
  | error cause => exact Or.inl ⟨cause, time, script, files, made, congrArg Prod.fst launched⟩
  | ok child =>
      exact Or.inr ⟨_, child, _, _, time, script, files, _, made, ⟨_, behind, rfl, launched, rfl⟩, rfl⟩

/-- **When a call gives a text**: the child ended with code 0, its streams ended as well before the deadline, and
nothing was on its standard error output.  The watch made no more looks than it may. -/
theorem after_eq_ok_iff {text : String} :
    call.after.1 = .ok text ↔ ∃ start child deadline seen state, call.Saw start child deadline seen state ∧
      seen.length ≤ collectBound ∧ concluded seen = true ∧ outcome? seen = some (.ok (.code 0)) ∧
      brought .stderr seen = [] ∧ said .stdout seen = text := by
  constructor
  · intro ok
    obtain ⟨time, script, files, made⟩ : call.timeoutSecs ≠ 0 ∧
        ∃ script files, call.written = (.ok script, files) := by
      by_cases time : call.timeoutSecs = 0
      · rw [after_of_noTime time] at ok
        cases ok
      · rcases made : call.written with ⟨cause | script, files⟩
        · rw [after_of_notWritten time made] at ok
          cases ok
        · exact ⟨time, script, files, rfl⟩
    rcases notStarted_or_started time made with ⟨cause, fails⟩ | ⟨start, child, deadline, first, started⟩
    · rw [after_of_fails fails] at ok
      cases ok
    · obtain ⟨seen, state, final, looks, within, watched⟩ :=
        exists_looks_of_watchFor call.platform child deadline collectBound first
      rw [after_of_watched started watched, verdict] at ok
      rcases done : concluded seen with _ | _ <;> rcases ended : outcome? seen with _ | _ | status <;>
        rw [done, ended] at ok <;> try cases ok
      obtain ⟨code, quiet, said_⟩ := judge_eq_ok_iff.mp ok
      cases status with
      | signal n => cases code
      | code n =>
          obtain rfl : n = 0 := Int32.toInt_inj.mp code
          exact ⟨start, child, deadline, seen, state, ⟨first, started, looks⟩, within, done, ended,
            said_eq_empty_iff.mp quiet, said_⟩
  · rintro ⟨start, child, deadline, seen, state, saw, within, done, ended, quiet, rfl⟩
    rw [after_of_collected saw within done ended, said_eq_empty_iff.mpr quiet]
    exact judge_of_clean

/-! ### The rules and the run -/

/-- What a rule says is what the call gives. -/
theorem after_of_ends (inSight : call.InSight) {result : Except ScriptError String}
    (ends : call.Ends result) : call.after.1 = result := by
  cases ends with
  | noTime none => rw [after_of_noTime none]
  | notWritten time fails => rw [after_of_notWritten time (Prod.ext fails rfl)]
  | notFound fails kind =>
      rw [after_of_fails fails, ScriptError.ofLaunch, kind]
  | denied fails kind =>
      rw [after_of_fails fails, ScriptError.ofLaunch, kind]
  | notStarted fails found allowed =>
      rw [after_of_fails fails, ScriptError.ofLaunch]
      split
      · contradiction
      · contradiction
      · rfl
  | lost saw fails => exact after_of_lost saw (inSight _ _ _ _ _ saw).le fails
  | overdue saw awaited clock late =>
      exact after_of_overdue saw (inSight _ _ _ _ _ saw) awaited clock late
  | failed saw done ended bad =>
      rw [after_of_collected saw (inSight _ _ _ _ _ saw).le done ended,
        judge_of_exitCode_ne_zero (exitCodeOf_code_ne_zero bad)]
      rfl
  | killed saw done ended =>
      have bad : (-1 : Int) ≠ 0 := by decide
      rw [after_of_collected saw (inSight _ _ _ _ _ saw).le done ended]
      exact judge_of_exitCode_ne_zero bad
  | complained saw done ended noise =>
      rw [after_of_collected saw (inSight _ _ _ _ _ saw).le done ended]
      exact judge_of_stderr_ne_empty (mt said_eq_empty_iff.mp noise)
  | good saw done ended quiet =>
      rw [after_of_collected saw (inSight _ _ _ _ _ saw).le done ended, said_eq_empty_iff.mpr quiet]
      exact judge_of_clean

/-- An interpreter that cannot be started ends the call by one of the rules. -/
theorem exists_ends_of_fails (fails : call.NotStarted cause) : ∃ result, call.Ends result := by
  by_cases found : cause.kind = .notFound
  · exact ⟨_, .notFound fails found⟩
  · by_cases allowed : cause.kind = .permissionDenied
    · exact ⟨_, .denied fails allowed⟩
    · exact ⟨_, .notStarted fails found allowed⟩

/-- A run that is over ends the call by one of the rules. -/
theorem exists_ends_of_concluded (saw : call.Saw start child deadline seen state)
    (done : concluded seen = true) : ∃ result, call.Ends result := by
  rcases ended : outcome? seen with _ | cause | status
  · exact absurd ended (outcome?_ne_none_of_concluded done)
  · exact ⟨_, .lost saw ended⟩
  · cases status with
    | signal n => exact ⟨_, .killed saw done ended⟩
    | code n =>
        by_cases bad : n = 0
        · subst bad
          by_cases quiet : brought .stderr seen = []
          · exact ⟨_, .good saw done ended quiet⟩
          · exact ⟨_, .complained saw done ended quiet⟩
        · exact ⟨_, .failed saw done ended bad⟩

/-- Every call ends by one of the rules. -/
theorem exists_ends (inSight : call.InSight) : ∃ result, call.Ends result := by
  by_cases time : call.timeoutSecs = 0
  · exact ⟨_, .noTime time⟩
  · obtain ⟨⟨answer, files⟩, made⟩ : ∃ written, call.written = written := ⟨_, rfl⟩
    cases answer with
    | error cause => exact ⟨_, .notWritten time (congrArg Prod.fst made)⟩
    | ok script =>
        rcases notStarted_or_started time made with ⟨cause, fails⟩ | ⟨start, child, deadline, first, started⟩
        · exact exists_ends_of_fails fails
        · obtain ⟨seen, state, looks, -, stops⟩ :=
            exists_looks call.platform child deadline first collectBound
          have saw : call.Saw start child deadline seen state := ⟨first, started, looks⟩
          cases done : concluded seen with
          | true => exact exists_ends_of_concluded saw done
          | false =>
              have late := (stops (inSight _ _ _ _ _ saw)).resolve_left (by simp [done])
              exact ⟨_, .overdue saw done rfl late⟩

end

/-- **What happened determines the result.**  A call whose child is seen to the end of its run gives a result
exactly when one of the rules calls for it, whatever the system, the script and the state in which the call is
made. -/
theorem after_eq_iff_ends (call : ScriptCall σ) (inSight : call.InSight)
    (result : Except ScriptError String) : call.after.1 = result ↔ call.Ends result := by
  constructor
  · rintro rfl
    obtain ⟨result, ends⟩ := exists_ends inSight
    rwa [after_of_ends inSight ends]
  · exact after_of_ends inSight

variable {call}

/-- A call is seen to its end on a system that does not repeat itself. -/
theorem inSight_of_showsNews
    (shows_ : ∀ start child deadline first, call.Started start child deadline first →
      ShowsNews call.platform child deadline first) : call.InSight := by
  rintro start child deadline seen state ⟨first, started, looks⟩
  exact looks.length_lt (shows_ start child deadline first started)

/-! ### Calls on small systems -/

/-- A call on a system with nothing but a place for scripts. -/
def plain (platform : Platform (FileTree × σ)) (rest : σ) : ScriptCall σ where
  faults := {}
  platform := platform
  runner := {}
  source := "print('hi', end='')"
  timeoutSecs := 5
  args := []
  files := bare
  rest := rest

theorem exists_written_plain (platform : Platform (FileTree × σ)) (rest : σ) :
    ∃ script files, (plain platform rest).written = (.ok script, files) := by
  have standing : bare.Standing ["tmp"] := by decide
  obtain ⟨script, files, created, -⟩ := EphemeralScript.exists_create_ok ({} : ScriptRunner).extension
    "print('hi', end='')" (by decide) standing (by decide) (by decide) rfl (by decide) (by decide)
    (by decide) (by decide) rfl (by decide) (by decide)
  exact ⟨script, files, created⟩

/-- A system with a clock on which a launch takes a second and nothing happens then, so that a wait lasts as long
as it may. -/
def dormant : Platform (FileTree × Nat) where
  __ := Platform.inert (FileTree × Nat)
  clock := fun (files, now) => (now, files, now)
  launch _ := fun (files, now) => (.ok 7, files, now + 1000000000)
  await _ limit := fun (files, now) => (.quiet, files, limit.getD now)

theorem inSight_dormant : (plain dormant 0).InSight := by
  refine inSight_of_showsNews fun start child deadline first _ seen state sight next _ _ looked => ?_
  obtain ⟨-, rfl⟩ := Prod.mk.inj looked
  exact Or.inr (Nat.le_refl deadline)

/-- Five seconds behind a launch that took one, a call is given up. -/
theorem after_plain_dormant : (plain dormant 0).after.1 = .error (.timeout 6000) := by
  obtain ⟨script, files, written⟩ := exists_written_plain dormant 0
  have started : (plain dormant 0).Started 0 7 6000000000 (files, 1000000000) :=
    ⟨by decide, script, files, 1000000000, written, ⟨_, _, rfl, rfl, rfl⟩, by decide⟩
  have looks : Looks dormant 7 6000000000 (files, 1000000000) [.nothing] (files, 6000000000) :=
    .look .none rfl rfl (by decide) rfl
  exact (after_eq_iff_ends _ inSight_dormant _).mpr
    (.overdue ⟨_, started, looks⟩ rfl rfl (Nat.le_refl _))

/-- A system on which every child ends at once and can never be collected. -/
def deserted : Platform (FileTree × Unit) where
  __ := Platform.inert (FileTree × Unit)
  launch _ := pure (.ok 7)
  await _ _ := pure .exited

/-- What is seen of a child there, if anything, is that it cannot be collected. -/
theorem outcome?_of_looks_deserted {child : Pid} {deadline : Nat} {first state : FileTree × Unit}
    {seen : List Sight} (looks : Looks deserted child deadline first seen state) :
    outcome? seen = none ∨ outcome? seen = some (.error (.ofErrno .noChild)) := by
  cases looks with
  | none => exact Or.inl rfl
  | look before awaited clock early looked =>
      obtain ⟨rfl, -⟩ := Prod.mk.inj looked
      rw [outcome?_append_singleton]
      exact Or.inr rfl

/-- **A child that cannot be collected does not make its run overdue**, though neither its end nor that of a
stream comes in time. -/
theorem lost_wait_is_no_timeout :
    ¬∀ (σ : Type) (call : ScriptCall σ) (start : Nat) (child : Pid) (deadline : Nat)
      (first : FileTree × σ), call.Started start child deadline first →
      (∀ seen state, Looks call.platform child deadline first seen state →
        ¬((∃ status, outcome? seen = some (.ok status)) ∧ ∀ stream, streamOver stream seen = true)) →
      ∃ elapsedMs, call.after.1 = .error (.timeout elapsedMs) := by
  intro overdue
  obtain ⟨script, files, written⟩ := exists_written_plain deserted ()
  have started : (plain deserted ()).Started 0 7 5000000000 (files, ()) :=
    ⟨by decide, script, files, 0, written, ⟨_, _, rfl, rfl, rfl⟩, by decide⟩
  obtain ⟨elapsedMs, result⟩ := overdue _ _ _ _ _ _ started (by
    rintro seen state looks ⟨⟨status, collected⟩, -⟩
    rcases outcome?_of_looks_deserted looks with nothing | lost
    · simp [nothing] at collected
    · simp [lost] at collected)
  have looks : Looks deserted 7 5000000000 (files, ()) [.collected (.error (.ofErrno .noChild))]
      (files, ()) := .look .none rfl rfl (by decide) rfl
  rw [after_of_lost ⟨_, started, looks⟩ (by decide) rfl] at result
  cases result

end ScriptCall

end Overseer.Script
