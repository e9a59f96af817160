import Overseer.Agent.Config
import Overseer.Proofs.Supervision.Launches

/-!
# The deadlines of a configured command

A command under the settings of the agent has the time that the settings give it.  The settings let
every positive number of seconds below `2 ^ 64` through, and the check of a command only refuses no
time at all, so each of them passes.  But the deadline of the last resort is a few seconds later, and
that sum need not be a duration any more.

`brokeOff_command_iff` says which settings are affected: those whose time is so close to the bound
that the grace time of the kill does not fit in (`LeavesNoRoom`).  Under these, every command that can
be started breaks off with its child running; under all others it has a result.
-/

namespace Overseer

open Overseer.Os Overseer.Processes Overseer.Script Overseer.Text Overseer.Time

theorem Text.unsigned?_lt {bound n : Nat} {s : String} (denotes : unsigned? bound s = some n) :
    n < bound := by
  simpa using (Option.filter_eq_some_iff.mp denotes).2

/-- Whole seconds are added to the seconds alone. -/
theorem Time.Duration.add?_eq_none_iff_of_whole {a b : Duration} (whole : b.nanos = 0) :
    a.add? b = none ↔ secondsBound ≤ a.secs + b.secs := by
  have sum : (a.nanoseconds + b.nanoseconds) / nanosPerSecond = a.secs + b.secs := by
    have small := a.nanos_lt
    simp only [nanoseconds, whole, nanosPerSecond] at small ⊢
    omega
  rw [add?_eq_none_iff, sum]

namespace Agent

variable {setting : Setting} {value : String} {lookup : String → Option String}
variable {config : AgentConfig} {time : Duration}

theorem parseSecs_eq_ok_iff :
    parseSecs setting value = .ok time ↔
      unsigned? secondsBound (trim value) = some time.secs ∧ 0 < time.secs ∧ time.nanos = 0 := by
  unfold parseSecs
  split
  · next nothing => simp [nothing]
  · next zero =>
    rw [zero]
    simp only [reduceCtorEq, Option.some.injEq, false_iff]
    omega
  · next n positive denotes =>
    have small : n % 18446744073709551616 = n := Nat.mod_eq_of_lt (unsigned?_lt denotes)
    have seconds : (Duration.ofSecs (UInt64.ofNat n)).secs = n := by
      simpa [Duration.ofSecs] using small
    rw [denotes, Except.ok.injEq, Option.some.injEq]
    constructor
    · rintro rfl
      rw [seconds]
      exact ⟨rfl, Nat.pos_of_ne_zero positive, rfl⟩
    · rintro ⟨rfl, -, whole⟩
      exact Duration.ext seconds whole.symm

namespace AgentConfig

/-- A variable gives something if it is there and not blank. -/
theorem given?_eq_some_iff :
    given? lookup setting = some value ↔ lookup setting.variableName = some value ∧ ¬Blank value := by
  rw [given?, Option.filter_eq_some_iff]
  simp

theorem given?_eq_none_iff :
    given? lookup setting = none ↔
      ∀ value, lookup setting.variableName = some value → Blank value := by
  rw [given?, Option.filter_eq_none_iff]
  simp

theorem timeOf_eq_ok_iff {default : Duration} :
    timeOf lookup setting default = .ok time ↔
      (given? lookup setting = none ∧ default = time) ∨
        ∃ value, given? lookup setting = some value ∧ parseSecs setting value = .ok time := by
  unfold timeOf
  cases given? lookup setting <;> simp

theorem ofLookup_eq_ok_iff :
    ofLookup lookup = .ok config ↔
      .ofString ((given? lookup .shell).getD defaultShell) = config.shell ∧
      .ofString ((given? lookup .interpreter).getD defaultInterpreter) = config.interpreter ∧
      timeOf lookup .timeout defaultTimeout = .ok config.timeout ∧
      timeOf lookup .interval defaultInterval = .ok config.interval ∧
      (given? lookup .reap).map trim = config.reapOnStart := by
  unfold ofLookup
  cases timeOf lookup .timeout defaultTimeout with
  | error e => simp [bind, Except.bind]
  | ok timeout =>
      cases timeOf lookup .interval defaultInterval with
      | error e => simp [bind, Except.bind]
      | ok interval =>
          cases config
          simp [bind, Except.bind, pure, Except.pure]

/-- The time that the settings give is so long that no grace time fits in behind it. -/
def LeavesNoRoom (lookup : String → Option String) : Prop :=
  ∃ value n, given? lookup .timeout = some value ∧
    unsigned? secondsBound (trim value) = some n ∧ secondsBound ≤ n + killGrace.secs

/-- A time that the settings give has a whole second at least, as long as the default has one. -/
theorem secs_pos_of_timeOf {default : Duration} (positive : 0 < default.secs)
    (taken : timeOf lookup setting default = .ok time) : 0 < time.secs := by
  rcases timeOf_eq_ok_iff.mp taken with ⟨-, rfl⟩ | ⟨value, -, parsed⟩
  · exact positive
  · exact (parseSecs_eq_ok_iff.mp parsed).2.1

/-- The settings give every command some time. -/
theorem timeout_ne_zero (accepted : ofLookup lookup = .ok config) : config.timeout ≠ .zero := by
  intro zero
  have positive := secs_pos_of_timeOf (by decide) (ofLookup_eq_ok_iff.mp accepted).2.2.1
  rw [zero] at positive
  exact absurd positive (by decide)

/-- The settings leave some time between two samples. -/
theorem interval_pos (accepted : ofLookup lookup = .ok config) : 0 < config.interval.nanoseconds := by
  have positive := secs_pos_of_timeOf (by decide) (ofLookup_eq_ok_iff.mp accepted).2.2.2.1
  exact Nat.add_pos_left (Nat.mul_pos positive (by decide)) _

theorem validate_command (accepted : ofLookup lookup = .ok config) (text : String) :
    (config.command text).validate = .ok () :=
  CommandSpec.validate_eq_ok_iff.mpr (timeout_ne_zero accepted)

/-- **When the last resort is no duration.** -/
theorem add?_killGrace_eq_none_iff (accepted : ofLookup lookup = .ok config) :
    config.timeout.add? killGrace = none ↔ LeavesNoRoom lookup := by
  rw [Duration.add?_eq_none_iff_of_whole rfl]
  have time := timeOf_eq_ok_iff.mp (ofLookup_eq_ok_iff.mp accepted).2.2.1
  constructor
  · intro long
    rcases time with ⟨-, default⟩ | ⟨value, given, parsed⟩
    · rw [← default] at long
      exact absurd long (by decide)
    · exact ⟨value, _, given, (parseSecs_eq_ok_iff.mp parsed).1, long⟩
  · rintro ⟨value, n, given, denotes, long⟩
    rcases time with ⟨missing, -⟩ | ⟨value', given', parsed⟩
    · rw [given] at missing
      cases missing
    · obtain rfl : value = value' := Option.some.inj (given.symm.trans given')
      obtain rfl : n = config.timeout.secs :=
        Option.some.inj (denotes.symm.trans (parseSecs_eq_ok_iff.mp parsed).1)
      exact long

/-- **Which settings break commands off.**  Every command under accepted settings passes the check.
If the time that the settings give leaves no room for the grace time, then the command breaks off
with its child running, unless it cannot be started.  In all other cases the sum of the two is a
duration, and the command has a result, unless it cannot be started. -/
theorem brokeOff_command_iff {σ : Type} (accepted : ofLookup lookup = .ok config) (text : String)
    (platform : Platform σ) (state : σ) :
    (config.command text).validate = .ok () ∧
    ((config.command text).timeout.add? killGrace = none ↔ LeavesNoRoom lookup) ∧
    (((execute platform (config.command text)).run state).1 = .brokeOff ↔ LeavesNoRoom lookup ∧
      ∃ child, ((launchAnswer platform (config.command text)).run state).1 = .ok child) ∧
    (¬LeavesNoRoom lookup →
      ∀ child, ((launchAnswer platform (config.command text)).run state).1 = .ok child →
        ∃ result, ((execute platform (config.command text)).run state).1 = .finished result) := by
  have valid := validate_command accepted text
  have room : (config.command text).timeout.add? killGrace = none ↔ LeavesNoRoom lookup :=
    add?_killGrace_eq_none_iff accepted
  refine ⟨valid, room, ?_, ?_⟩
  · rw [execute_eq_brokeOff_iff valid, room]
  · intro fits child answer
    cases sum : (config.command text).timeout.add? killGrace with
    | none => exact absurd (room.mp sum) fits
    | some lastResort => exact execute_of_lastResort valid answer sum

/-- The longest time that the settings can give. -/
def longest : String → Option String
  | "HOSTEXEC_TIMEOUT_SECS" => some "18446744073709551615"
  | _ => none

/-- The settings that it gives. -/
def longestConfig : AgentConfig := { timeout := .ofSecs 18446744073709551615 }

theorem given?_longest : given? longest .timeout = some "18446744073709551615" := by
  have written : ¬Blank "18446744073709551615" := by
    intro blank
    have first : '1' ∈ "18446744073709551615".toList := by simp
    exact absurd (blank '1' first) (by decide)
  exact given?_eq_some_iff.mpr ⟨rfl, written⟩

theorem leavesNoRoom_longest : LeavesNoRoom longest :=
  ⟨_, 18446744073709551615, given?_longest, by decide +kernel, by decide⟩

theorem ofLookup_longest : ofLookup longest = .ok longestConfig := by
  have time : timeOf longest .timeout defaultTimeout = .ok longestConfig.timeout :=
    timeOf_eq_ok_iff.mpr (Or.inr ⟨_, given?_longest, parseSecs_eq_ok_iff.mpr (by decide +kernel)⟩)
  have interval : timeOf longest .interval defaultInterval = .ok longestConfig.interval :=
    timeOf_eq_ok_iff.mpr (Or.inl ⟨by decide +kernel, rfl⟩)
  exact ofLookup_eq_ok_iff.mpr
    ⟨by decide +kernel, by decide +kernel, time, interval, by decide +kernel⟩

/-- A system on which every program can be started. -/
def startable : Platform Unit := { Platform.inert Unit with launch := fun _ => pure (.ok 2) }

/-- Under the longest time every command that can be started breaks off. -/
theorem brokeOff_longest : ofLookup longest = .ok longestConfig ∧
    ((execute startable (longestConfig.command "true")).run ()).1 = .brokeOff := by
  refine ⟨ofLookup_longest, ?_⟩
  exact (brokeOff_command_iff ofLookup_longest "true" startable ()).2.2.1.mpr
    ⟨leavesNoRoom_longest, 2, rfl⟩

/-- **Accepted settings do not keep commands from breaking off.** -/
theorem accepted_may_break_off :
    ¬∀ (lookup : String → Option String) (config : AgentConfig) (text : String),
      ofLookup lookup = .ok config →
      (config.command text).validate = .ok () ∧
      (config.command text).timeout.add? killGrace ≠ none ∧
      ∀ (σ : Type) (platform : Platform σ) (state : σ),
        ((execute platform (config.command text)).run state).1 ≠ .brokeOff := by
  intro safe
  refine (safe longest longestConfig "true" ofLookup_longest).2.1 ?_
  exact (add?_killGrace_eq_none_iff ofLookup_longest).mpr leavesNoRoom_longest

end AgentConfig

end Agent

end Overseer
