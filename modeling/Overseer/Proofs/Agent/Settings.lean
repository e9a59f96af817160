import Mathlib.Logic.Function.Basic
import Overseer.Proofs.Agent.Deadlines
import Overseer.Proofs.Text.Numerals
import Overseer.Proofs.Text.Trimming

/-!
# Which settings the agent accepts

Each of the five variables governs one field.  A variable that is missing or blank leaves its field at
the default (`FieldOf`).  Two of them give a time, and only these can be refused: they must denote a
number of seconds from 1 to `2 ^ 64 - 1`, or be missing or blank (`Usable`).

`ofLookup_of_variables` says for all variables what comes of them.  The settings are accepted exactly if
both times are usable, and then they are the ones that the variables describe (`Describes`); otherwise
the error is about the first of the two that is not (`Reports`).  What is accepted and what is refused is
said in terms of the texts that denote numbers, and not of how these are read.
-/

namespace Overseer.Agent.AgentConfig

open Overseer.Script Overseer.Text Overseer.Time

/-- The variable is missing or blank. -/
def Unset (lookup : String → Option String) (setting : Setting) : Prop :=
  ∀ value, lookup setting.variableName = some value → Blank value

/-- But for blank characters around it, a text denotes this number of seconds, and the number is at least
one and fits into 64 bits. -/
def GivesSeconds (value : String) (n : Nat) : Prop :=
  Denotes (trim value) n ∧ 1 ≤ n ∧ n ≤ 2 ^ 64 - 1

/-- A text gives a time, in whole seconds. -/
def GivesTime (value : String) (time : Duration) : Prop :=
  GivesSeconds value time.secs ∧ time.nanos = 0

/-- The variable gives a time or leaves it at the default. -/
def Usable (lookup : String → Option String) (setting : Setting) : Prop :=
  Unset lookup setting ∨
    ∃ value n, lookup setting.variableName = some value ∧ GivesSeconds value n

/-- A field has what its variable gives, or what it has without any variables if its variable is missing
or blank. -/
def FieldOf {α : Type} (lookup : String → Option String) (setting : Setting)
    (gives : String → α → Prop) (field : AgentConfig → α) (config : AgentConfig) : Prop :=
  (Unset lookup setting ∧ field config = field {}) ∨
    ∃ value, lookup setting.variableName = some value ∧ ¬Blank value ∧ gives value (field config)

/-- The settings are those that the variables describe. -/
structure Describes (lookup : String → Option String) (config : AgentConfig) : Prop where
  shell : FieldOf lookup .shell (fun value shell => shell = .ofString value) (·.shell) config
  interpreter : FieldOf lookup .interpreter (fun value program => program = .ofString value)
    (·.interpreter) config
  timeout : FieldOf lookup .timeout GivesTime (·.timeout) config
  interval : FieldOf lookup .interval GivesTime (·.interval) config
  reap : FieldOf lookup .reap (fun value pattern => pattern = some (trim value)) (·.reapOnStart)
    config

/-- The error is the one to be reported about the variables: it is about the first time that is not
usable, has the text of the variable as it is, and blames the number zero for being zero. -/
structure Reports (lookup : String → Option String) (e : ConfigError) : Prop where
  first : e.setting = .timeout ∨ e.setting = .interval ∧ Usable lookup .timeout
  refused : ¬Usable lookup e.setting
  held : lookup e.setting.variableName = some e.value
  reason : e.fault.reason = "must be greater than zero" ↔ Denotes (trim e.value) 0

/-- Two settings are the same in the field that a variable governs. -/
def SameField (a b : AgentConfig) : Setting → Prop
  | .shell => a.shell = b.shell
  | .interpreter => a.interpreter = b.interpreter
  | .timeout => a.timeout = b.timeout
  | .interval => a.interval = b.interval
  | .reap => a.reapOnStart = b.reapOnStart

variable {lookup lookup' : String → Option String} {setting : Setting} {value : String}
variable {config config' : AgentConfig} {time default : Duration} {e : ConfigError}

/-! ## One variable -/

/-- A text that denotes a number between blank characters is not blank. -/
theorem not_blank_of_denotes {n : Nat} (denotes : Denotes (trim value) n) : ¬Blank value := by
  intro blank
  rw [trim_eq_empty_iff.mpr blank] at denotes
  exact not_denotes_empty denotes

theorem parseSecs_eq_ok_iff_givesTime : parseSecs setting value = .ok time ↔ GivesTime value time := by
  have bound : time.secs < secondsBound := time.secs_lt
  rw [parseSecs_eq_ok_iff, unsigned?_eq_some_iff, GivesTime, GivesSeconds]
  unfold secondsBound at *
  constructor
  · rintro ⟨⟨denotes, -⟩, positive, whole⟩
    exact ⟨⟨denotes, positive, by omega⟩, whole⟩
  · rintro ⟨⟨denotes, positive, -⟩, whole⟩
    exact ⟨⟨denotes, bound⟩, positive, whole⟩

theorem reason_eq_iff {fault : TimeFault} :
    fault.reason = "must be greater than zero" ↔ fault = .zero := by
  cases fault <;> decide

/-- What a refused text is blamed for. -/
theorem fields_of_parseSecs_error (refused : parseSecs setting value = .error e) :
    e.setting = setting ∧ e.value = value ∧
      (e.fault.reason = "must be greater than zero" ↔ Denotes (trim value) 0) := by
  have zero : unsigned? secondsBound (trim value) = some 0 ↔ Denotes (trim value) 0 :=
    unsigned?_eq_some_iff.trans (and_iff_left (by decide))
  rw [reason_eq_iff, ← zero]
  unfold parseSecs at refused
  split at refused
  · next unread =>
    cases refused
    simp [unread]
  · next read =>
    cases refused
    simp [read]
  · cases refused

theorem timeOf_eq_error_iff :
    timeOf lookup setting default = .error e ↔
      ∃ value, given? lookup setting = some value ∧ parseSecs setting value = .error e := by
  unfold timeOf
  cases given? lookup setting <;> simp

/-- A variable is usable exactly if a time comes of it. -/
theorem usable_iff (default : Duration) :
    Usable lookup setting ↔ ∃ time, timeOf lookup setting default = .ok time := by
  simp only [timeOf_eq_ok_iff, parseSecs_eq_ok_iff_givesTime]
  constructor
  · rintro (unset | ⟨value, n, held, gives⟩)
    · exact ⟨default, Or.inl ⟨given?_eq_none_iff.mpr unset, rfl⟩⟩
    · -- A number without a bound becomes a time, which has one.
      obtain ⟨denotes, positive, fits⟩ := gives
      have small : n < 2 ^ 64 := by omega
      have given := given?_eq_some_iff.mpr ⟨held, not_blank_of_denotes denotes⟩
      exact ⟨⟨n, 0, small, by decide⟩, Or.inr ⟨value, given, ⟨denotes, positive, fits⟩, rfl⟩⟩
  · rintro ⟨time, ⟨missing, -⟩ | ⟨value, given, gives, -⟩⟩
    · exact Or.inl (given?_eq_none_iff.mp missing)
    · exact Or.inr ⟨value, time.secs, (given?_eq_some_iff.mp given).1, gives⟩

theorem fieldOf_iff {α : Type} {gives : String → α → Prop} {field : AgentConfig → α} :
    FieldOf lookup setting gives field config ↔
      (given? lookup setting = none ∧ field config = field {}) ∨
        ∃ value, given? lookup setting = some value ∧ gives value (field config) := by
  simp only [FieldOf, given?_eq_some_iff, given?_eq_none_iff, Unset, and_assoc]

/-- A text is taken as it is. -/
theorem fieldOf_text_iff (field : AgentConfig → OsText) {text : String}
    (without : field {} = .ofString text) :
    .ofString ((given? lookup setting).getD text) = field config ↔
      FieldOf lookup setting (fun value taken => taken = .ofString value) field config := by
  rw [fieldOf_iff, without]
  cases given? lookup setting <;> simp [eq_comm]

theorem fieldOf_time_iff {field : AgentConfig → Duration} :
    timeOf lookup setting (field {}) = .ok (field config) ↔
      FieldOf lookup setting GivesTime field config := by
  rw [timeOf_eq_ok_iff, fieldOf_iff, eq_comm (a := field {})]
  simp only [parseSecs_eq_ok_iff_givesTime]

theorem fieldOf_pattern_iff :
    (given? lookup setting).map trim = config.reapOnStart ↔
      FieldOf lookup setting (fun value pattern => pattern = some (trim value)) (·.reapOnStart)
        config := by
  rw [fieldOf_iff]
  cases given? lookup setting <;> simp [eq_comm]

/-! ## All variables -/

/-- The settings that are accepted are those that the variables describe. -/
theorem ofLookup_eq_ok_iff_describes : ofLookup lookup = .ok config ↔ Describes lookup config := by
  rw [ofLookup_eq_ok_iff, fieldOf_text_iff (·.shell) rfl,
    fieldOf_text_iff (·.interpreter) rfl, fieldOf_pattern_iff]
  constructor
  · rintro ⟨shell, interpreter, timeout, interval, reap⟩
    exact ⟨shell, interpreter, fieldOf_time_iff.mp timeout, fieldOf_time_iff.mp interval, reap⟩
  · rintro ⟨shell, interpreter, timeout, interval, reap⟩
    exact ⟨shell, interpreter, fieldOf_time_iff.mpr timeout, fieldOf_time_iff.mpr interval, reap⟩

theorem ofLookup_isOk_iff :
    (∃ config, ofLookup lookup = .ok config) ↔ Usable lookup .timeout ∧ Usable lookup .interval := by
  rw [usable_iff defaultTimeout, usable_iff defaultInterval]
  simp only [ofLookup_eq_ok_iff]
  constructor
  · rintro ⟨config, -, -, timeout, interval, -⟩
    exact ⟨⟨_, timeout⟩, ⟨_, interval⟩⟩
  · rintro ⟨⟨_, timeout⟩, ⟨_, interval⟩⟩
    exact ⟨⟨_, _, _, _, _⟩, rfl, rfl, timeout, interval, rfl⟩

/-- The time of a command is read first. -/
theorem ofLookup_eq_error_iff :
    ofLookup lookup = .error e ↔ timeOf lookup .timeout defaultTimeout = .error e ∨
      (∃ time, timeOf lookup .timeout defaultTimeout = .ok time) ∧
        timeOf lookup .interval defaultInterval = .error e := by
  unfold ofLookup
  cases timeOf lookup .timeout defaultTimeout with
  | error e' => simp [bind, Except.bind]
  | ok timeout =>
      cases timeOf lookup .interval defaultInterval <;> simp [bind, Except.bind, pure, Except.pure]

/-- The error of a time that is not usable. -/
theorem of_timeOf_eq_error (refused : timeOf lookup setting default = .error e) :
    e.setting = setting ∧ ¬Usable lookup setting ∧
      lookup setting.variableName = some e.value ∧
      (e.fault.reason = "must be greater than zero" ↔ Denotes (trim e.value) 0) := by
  obtain ⟨value, given, parsed⟩ := timeOf_eq_error_iff.mp refused
  obtain ⟨same, rfl, reason⟩ := fields_of_parseSecs_error parsed
  refine ⟨same, ?_, (given?_eq_some_iff.mp given).1, reason⟩
  rw [usable_iff default, refused]
  rintro ⟨_, ⟨⟩⟩

/-- Every error is the one to be reported. -/
theorem reports_of_error (refused : ofLookup lookup = .error e) : Reports lookup e := by
  rcases ofLookup_eq_error_iff.mp refused with timeout | ⟨accepted, interval⟩
  · obtain ⟨same, unusable, held, reason⟩ := of_timeOf_eq_error timeout
    exact ⟨Or.inl same, same ▸ unusable, same ▸ held, reason⟩
  · obtain ⟨same, unusable, held, reason⟩ := of_timeOf_eq_error interval
    exact ⟨Or.inr ⟨same, (usable_iff _).mpr accepted⟩, same ▸ unusable, same ▸ held, reason⟩

/-- There is one error to be reported at most. -/
theorem Reports.unique {e' : ConfigError} (here : Reports lookup e) (there : Reports lookup e') :
    e = e' := by
  -- An error about the second time leaves no room for one about the first, which is usable then.
  have settings : e.setting = e'.setting := by
    rcases here.first with timeout | ⟨interval, usable⟩ <;>
      rcases there.first with timeout' | ⟨interval', usable'⟩
    · exact timeout.trans timeout'.symm
    · exact absurd (timeout ▸ usable') here.refused
    · exact absurd (timeout' ▸ usable) there.refused
    · exact interval.trans interval'.symm
  have values : e.value = e'.value :=
    Option.some.inj (here.held.symm.trans (settings ▸ there.held))
  have zeros : e.fault = .zero ↔ e'.fault = .zero := by
    rw [← reason_eq_iff, ← reason_eq_iff, here.reason, there.reason, values]
  have faults : e.fault = e'.fault := by
    revert zeros
    cases e.fault <;> cases e'.fault <;> decide
  cases e
  cases e'
  simp_all

/-- The errors are those to be reported. -/
theorem ofLookup_eq_error_iff_reports : ofLookup lookup = .error e ↔ Reports lookup e := by
  refine ⟨reports_of_error, fun report => ?_⟩
  cases outcome : ofLookup lookup with
  | error e' => rw [report.unique (reports_of_error outcome)]
  | ok config =>
      obtain ⟨timeout, interval⟩ := ofLookup_isOk_iff.mp ⟨config, outcome⟩
      rcases report.first with same | ⟨same, -⟩
      · exact absurd (same ▸ timeout) report.refused
      · exact absurd (same ▸ interval) report.refused

theorem given?_congr (same : lookup' setting.variableName = lookup setting.variableName) :
    given? lookup' setting = given? lookup setting := by
  rw [given?, given?, same]

/-- **A variable governs its own field only**: where two lookups agree, so do the settings. -/
theorem sameField_of_agree (accepted : ofLookup lookup = .ok config)
    (accepted' : ofLookup lookup' = .ok config')
    (same : lookup' setting.variableName = lookup setting.variableName) :
    SameField config config' setting := by
  obtain ⟨shell, interpreter, timeout, interval, reap⟩ := ofLookup_eq_ok_iff.mp accepted
  obtain ⟨shell', interpreter', timeout', interval', reap'⟩ := ofLookup_eq_ok_iff.mp accepted'
  have given := given?_congr same
  cases setting with
  | shell =>
      show config.shell = config'.shell
      rw [← shell, ← shell', given]
  | interpreter =>
      show config.interpreter = config'.interpreter
      rw [← interpreter, ← interpreter', given]
  | timeout =>
      rw [timeOf, given, ← timeOf] at timeout'
      exact Except.ok.inj (timeout.symm.trans timeout')
  | interval =>
      rw [timeOf, given, ← timeOf] at interval'
      exact Except.ok.inj (interval.symm.trans interval')
  | reap =>
      show config.reapOnStart = config'.reapOnStart
      rw [← reap, ← reap', given]

/-- **The settings that variables give.**  They are accepted exactly if both times are usable.  Then they
are those that the variables describe, and no others; and changing one variable, whatever its name, to
anything that is accepted as well, changes no field but the one that it governs.  Otherwise there is
exactly one error, the one to be reported. -/
theorem ofLookup_of_variables (lookup : String → Option String) :
    ((∃ config, ofLookup lookup = .ok config) ↔
      Usable lookup .timeout ∧ Usable lookup .interval) ∧
    (∀ config, ofLookup lookup = .ok config ↔ Describes lookup config) ∧
    (∀ config name held config', ofLookup lookup = .ok config →
      ofLookup (Function.update lookup name held) = .ok config' →
      ∀ setting : Setting, setting.variableName ≠ name → SameField config config' setting) ∧
    ∀ e, ofLookup lookup = .error e ↔ Reports lookup e := by
  refine ⟨ofLookup_isOk_iff, fun config => ofLookup_eq_ok_iff_describes, ?_,
    fun e => ofLookup_eq_error_iff_reports⟩
  intro config name held config' accepted accepted' setting other
  exact sameField_of_agree accepted accepted' (Function.update_of_ne other held lookup)

/-- Without variables, the settings are those of the documentation. -/
example : ofLookup (fun _ => none) = .ok {} ∧ ({} : AgentConfig).shell = .ofString "/bin/bash" ∧
    ({} : AgentConfig).interpreter = .ofString "python3" ∧
    ({} : AgentConfig).timeout = .ofSecs 30 ∧ ({} : AgentConfig).interval = .ofSecs 60 ∧
    ({} : AgentConfig).reapOnStart = none := ⟨rfl, rfl, rfl, rfl, rfl, rfl⟩

/-- Variables that give the time of a command with a sign, zeros in front and blank characters around. -/
def padded : String → Option String
  | "HOSTEXEC_TIMEOUT_SECS" => some " +007\n"
  | "HOSTEXEC_SHELL" => some " sh"
  | _ => none

/-- The same variables with another time between two samples. -/
def hurried : String → Option String := Function.update padded "METRICS_INTERVAL_SECS" (some "5")

/-- The settings that the padded variables give. -/
def paddedConfig : AgentConfig := { shell := .ofString " sh", timeout := .ofSecs 7 }

/-- The settings that the hurried variables give. -/
def hurriedConfig : AgentConfig := { paddedConfig with interval := .ofSecs 5 }

theorem unset_of_none (missing : lookup setting.variableName = none) : Unset lookup setting := by
  intro value held
  rw [missing] at held
  cases held

theorem not_blank_sh : ¬Blank " sh" := by
  intro blank
  have letter : 's' ∈ " sh".toList := by simp
  exact absurd (blank 's' letter) (by decide)

theorem givesTime_padded : GivesTime " +007\n" (.ofSecs 7) := by
  have trimmed : trim " +007\n" = "+007" := by decide +kernel
  have denotes : Denotes "+007" 7 := ⟨['+'], [0, 0, 7], Or.inr rfl, by decide, rfl, rfl⟩
  exact ⟨⟨trimmed.symm ▸ denotes, by decide, by decide⟩, rfl⟩

theorem givesTime_hurried : GivesTime "5" (.ofSecs 5) := by
  have trimmed : trim "5" = "5" := by decide +kernel
  have denotes : Denotes "5" 5 := ⟨[], [5], Or.inl rfl, by decide, rfl, rfl⟩
  exact ⟨⟨trimmed.symm ▸ denotes, by decide, by decide⟩, rfl⟩

theorem describes_padded : Describes padded paddedConfig where
  shell := Or.inr ⟨" sh", rfl, not_blank_sh, rfl⟩
  interpreter := Or.inl ⟨unset_of_none rfl, rfl⟩
  timeout := Or.inr ⟨" +007\n", rfl, not_blank_of_denotes givesTime_padded.1.1, givesTime_padded⟩
  interval := Or.inl ⟨unset_of_none rfl, rfl⟩
  reap := Or.inl ⟨unset_of_none rfl, rfl⟩

theorem describes_hurried : Describes hurried hurriedConfig where
  shell := Or.inr ⟨" sh", rfl, not_blank_sh, rfl⟩
  interpreter := Or.inl ⟨unset_of_none rfl, rfl⟩
  timeout := Or.inr ⟨" +007\n", rfl, not_blank_of_denotes givesTime_padded.1.1, givesTime_padded⟩
  interval := Or.inr ⟨"5", rfl, not_blank_of_denotes givesTime_hurried.1.1, givesTime_hurried⟩
  reap := Or.inl ⟨unset_of_none rfl, rfl⟩

/-- Another time between two samples leaves the time of a command as it was. -/
theorem sameField_of_hurried :
    ofLookup padded = .ok paddedConfig ∧ ofLookup hurried = .ok hurriedConfig ∧
      SameField paddedConfig hurriedConfig .timeout := by
  have accepted := ((ofLookup_of_variables padded).2.1 paddedConfig).mpr describes_padded
  have accepted' := ((ofLookup_of_variables hurried).2.1 hurriedConfig).mpr describes_hurried
  exact ⟨accepted, accepted',
    (ofLookup_of_variables padded).2.2.1 _ _ _ _ accepted accepted' .timeout (by decide)⟩

end Overseer.Agent.AgentConfig
