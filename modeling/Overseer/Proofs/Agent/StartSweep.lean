import Overseer.Agent.Hosted
import Overseer.Proofs.Agent.Deadlines
import Overseer.Proofs.Processes.Matching
import Overseer.Proofs.Processes.MemorySweeps
import Overseer.Proofs.Text.Trimming

/-!
# The sweep at the start of the agent

A sweep with the empty pattern would kill every process of the host.  Three things keep the agent from
it: a blank setting counts as none, another one is trimmed, and both mean the same characters by blank,
so a pattern that is left is not empty.

To see what an agent does to the world around it, it is run in surroundings that note its acts
(`Surroundings.noting`) and are otherwise the same.  `acts_of_accepted` says which acts those are, for all
settings that are accepted, all process tables and all surroundings.

## Main definitions

* `Surroundings.withTable` — surroundings whose sweep goes to a process table
* `Act`, `Surroundings.noting` — what an agent does, noted
* `Notes` — a program does what another one does, and notes acts of a kind
-/

namespace Overseer.Agent

open Overseer.Load Overseer.Processes Overseer.Text

/-- What an agent does to the world around it. -/
inductive Act where
  /-- it begins a sweep by a name pattern -/
  | sweep (pattern : String)
  /-- it calls its process table -/
  | call (call : TableCall)
  /-- it takes a sample of the load -/
  | sample

section

variable {σ α β : Type}

/-- The given surroundings, with a process table for the sweep.  The agent is the process `self`. -/
def Surroundings.withTable (world : Surroundings σ) (table : ProcessTable σ) (self : σ → Pid) :
    Surroundings σ :=
  { world with sweep := fun pattern state => (killByName table (self state) pattern).run state }

/-- A host is such surroundings. -/
theorem hostedSurroundings_eq (stop : Host.World → Bool) (config : AgentConfig) :
    hostedSurroundings stop config = (hostedSurroundings stop config).withTable Host.processTable
      (fun w => UInt32.ofNat w.2.supervisor) :=
  rfl

/-- A program that notes the given acts. -/
def noteOnly (acts : List Act) (program : StateM σ α) : StateM (σ × List Act) α :=
  fun (state, before) =>
    let (a, state) := program.run state
    (a, state, before ++ acts)

/-- Surroundings with a process table that also note what the agent does. -/
def Surroundings.noting (world : Surroundings σ) (table : ProcessTable σ) (self : σ → Pid) :
    Surroundings (σ × List Act) where
  clock := noteOnly [] world.clock
  stopRequested := noteOnly [] world.stopRequested
  waitUntil time := noteOnly [] (world.waitUntil time)
  sweep pattern := fun (state, before) =>
    let swept := (killByName table.noting (self state) pattern).run (state, [])
    (swept.1, swept.2.1, before ++ .sweep pattern :: swept.2.2.map .call)
  sample := noteOnly [.sample] world.sample

/-! ## Programs that note their acts -/

/-- From a state, a program that notes its acts does what the plain program does; the acts are of a given
kind. -/
def Notes (kind : σ → List Act → Prop) (plain : StateM σ α) (noted : StateM (σ × List Act) α) : Prop :=
  ∀ state before, ∃ acts, kind state acts ∧
    noted.run (state, before) = ((plain.run state).1, (plain.run state).2, before ++ acts)

/-- All acts are samples. -/
def OnlySamples (acts : List Act) : Prop := ∀ act ∈ acts, act = .sample

theorem onlySamples_nil : OnlySamples [] := nofun

theorem OnlySamples.append {acts later : List Act} (here : OnlySamples acts)
    (there : OnlySamples later) : OnlySamples (acts ++ later) :=
  List.forall_mem_append.mpr ⟨here, there⟩

variable {kind : σ → List Act → Prop}

theorem notes_pure (a : α) (nothing : ∀ state, kind state []) :
    Notes kind (pure a : StateM σ α) (pure a) :=
  fun state before => ⟨[], nothing state, by rw [List.append_nil]; rfl⟩

/-- A program that does nothing notes nothing. -/
theorem notes_nothing (a : α) :
    Notes (fun _ acts => acts = []) (pure a : StateM σ α) (pure a) :=
  notes_pure a fun _ => rfl

theorem notes_noteOnly {acts : List Act} (program : StateM σ α) (these : ∀ state, kind state acts) :
    Notes kind program (noteOnly acts program) :=
  fun state _ => ⟨acts, these state, rfl⟩

/-- Two programs one behind the other note what the first one notes and then, in the state that it leaves,
what the second one notes. -/
theorem notes_bind {first : σ → List Act → Prop} {second : σ → List Act → Prop} {plain : StateM σ α}
    {noted : StateM (σ × List Act) α} {next : α → StateM σ β} {next' : α → StateM (σ × List Act) β}
    (start : Notes first plain noted) (rest : ∀ a, Notes second (next a) (next' a))
    (both : ∀ state state' acts later, first state acts → second state' later →
      kind state (acts ++ later)) :
    Notes kind (plain >>= next) (noted >>= next') := by
  intro state before
  obtain ⟨acts, here, ran⟩ := start state before
  obtain ⟨later, there, ranOn⟩ := rest (plain.run state).1 (plain.run state).2 (before ++ acts)
  refine ⟨acts ++ later, both _ _ _ _ here there, ?_⟩
  rw [run_bind, run_bind, ran, ranOn, List.append_assoc]

/-! ## The acts of the agent -/

variable (world : Surroundings σ) (table : ProcessTable σ) (self : σ → Pid)

/-- The acts of a sweep: it is begun, and its calls are made. -/
def IsSweep (pattern : String) (state : σ) (acts : List Act) : Prop :=
  acts = .sweep pattern :: (sweepCalls table (self state) pattern state).map .call

theorem notes_sweep (pattern : String) :
    Notes (IsSweep table self pattern) ((world.withTable table self).sweep pattern)
      ((world.noting table self).sweep pattern) := by
  intro state before
  refine ⟨_, rfl, ?_⟩
  have swept := run_killByName_noting table (self state) pattern state []
  rw [List.nil_append] at swept
  exact congrArg (fun r => (r.1, r.2.1, before ++ Act.sweep pattern :: r.2.2.map Act.call)) swept

theorem notes_sweepDeeds (pattern : String) :
    Notes (IsSweep table self pattern) (sweepDeeds (world.withTable table self) pattern)
      (sweepDeeds (world.noting table self) pattern) := by
  refine notes_bind (notes_sweep world table self pattern) (fun _ => notes_nothing _) ?_
  rintro state state' acts later swept rfl
  rwa [List.append_nil]

/-- Programs that take samples and do nothing else, one behind the other. -/
theorem notes_samples_bind {plain : StateM σ α} {noted : StateM (σ × List Act) α}
    {next : α → StateM σ β} {next' : α → StateM (σ × List Act) β}
    (start : Notes (fun _ => OnlySamples) plain noted)
    (rest : ∀ a, Notes (fun _ => OnlySamples) (next a) (next' a)) :
    Notes (fun _ => OnlySamples) (plain >>= next) (noted >>= next') :=
  notes_bind start rest fun _ _ _ _ here there => here.append there

theorem notes_samples_pure (a : α) :
    Notes (fun _ => OnlySamples) (pure a : StateM σ α) (pure a) :=
  notes_pure a fun _ => onlySamples_nil

theorem notes_samples_noteOnly (program : StateM σ α) :
    Notes (fun _ => OnlySamples) program (noteOnly [] program) :=
  notes_noteOnly program fun _ => onlySamples_nil

/-- The loop takes samples and does nothing else. -/
theorem notes_runFor (rounds : Nat) (ticker : Ticker) :
    Notes (fun _ => OnlySamples) (runFor (world.withTable table self) rounds ticker)
      (runFor (world.noting table self) rounds ticker) := by
  induction rounds generalizing ticker with
  | zero => exact notes_samples_pure _
  | succ rounds ih =>
      refine notes_samples_bind (notes_samples_noteOnly world.stopRequested) fun stop => ?_
      cases stop with
      | true => exact notes_samples_pure _
      | false =>
          refine notes_samples_bind (notes_samples_noteOnly world.clock) fun now => ?_
          by_cases due : ticker.due ≤ now
          · rw [if_pos due, if_pos due]
            have one : OnlySamples [.sample] := by simp [OnlySamples]
            refine notes_samples_bind (notes_noteOnly world.sample fun _ => one) fun load => ?_
            exact notes_samples_bind (ih ticker.tick) fun _ => notes_samples_pure _
          · rw [if_neg due, if_neg due]
            exact notes_samples_bind (notes_samples_noteOnly (world.waitUntil _)) fun _ => ih ticker

/-- The acts of a whole run: those of the sweep, if there is a pattern, and then samples. -/
def IsRun (pattern : Option String) (state : σ) (acts : List Act) : Prop :=
  ∃ swept samples, acts = swept ++ samples ∧ OnlySamples samples ∧ match pattern with
    | some pattern => IsSweep table self pattern state swept
    | none => swept = []

theorem notes_runAgent (config : AgentConfig) (rounds : Nat) :
    Notes (IsRun table self config.reapOnStart)
      (runAgent (world.withTable table self) config rounds)
      (runAgent (world.noting table self) config rounds) := by
  have loop (swept : List Deed) : Notes (fun _ => OnlySamples)
      (do
        let now ← (world.withTable table self).clock
        let loop ← runFor (world.withTable table self) rounds (.startAt now config.interval.nanoseconds)
        pure (swept ++ loop))
      (do
        let now ← (world.noting table self).clock
        let loop ← runFor (world.noting table self) rounds (.startAt now config.interval.nanoseconds)
        pure (swept ++ loop)) := by
    refine notes_samples_bind (notes_samples_noteOnly world.clock) fun now => ?_
    exact notes_samples_bind (notes_runFor world table self rounds _) fun _ => notes_samples_pure _
  unfold runAgent
  cases config.reapOnStart with
  | none =>
      refine notes_bind (notes_nothing []) loop ?_
      rintro state state' _ samples rfl only
      exact ⟨[], samples, rfl, only, rfl⟩
  | some pattern =>
      refine notes_bind (notes_sweepDeeds world table self pattern) loop ?_
      intro state state' acts samples swept only
      exact ⟨acts, samples, rfl, only, swept⟩

/-! ## The settings -/

variable {lookup : String → Option String} {config : AgentConfig}

/-- **The sweep at the start.**  An agent that notes its acts does what it does otherwise.  If its setting
for the sweep is missing or blank, then it takes samples and does nothing else.  With every other setting
it first makes one sweep, whose pattern is the trimmed setting, and takes samples behind that.

This pattern is not empty and does not match every process.  The sweep lists the processes once, and
attempts to kill a process only if it is not the agent and its name, as it was listed, contains the
pattern, both in lower case. -/
theorem acts_of_accepted (accepted : AgentConfig.ofLookup lookup = .ok config) (rounds : Nat)
    (state : σ) :
    ∃ acts,
      (runAgent (world.noting table self) config rounds).run (state, []) =
        (((runAgent (world.withTable table self) config rounds).run state).1,
          ((runAgent (world.withTable table self) config rounds).run state).2, acts) ∧
      ((∀ value, lookup "REAP_ON_START" = some value → Blank value) → ∀ act ∈ acts, act = .sample) ∧
      ∀ value, lookup "REAP_ON_START" = some value → ¬Blank value →
        trim value ≠ "" ∧ (¬∀ record : ProcessRecord, record.matches (trim value) = true) ∧
        ∃ (listed : Except ReaperError (List ProcessRecord)) (attempts : List Attempt)
          (samples : List Act),
          acts = .sweep (trim value) :: .call (.listing listed) ::
            attempts.map (fun attempt => .call (.kill attempt)) ++ samples ∧
          (∀ act ∈ samples, act = .sample) ∧
          ∀ attempt ∈ attempts, attempt.pid ≠ self state ∧
            ∃ records, listed = .ok records ∧ ∃ record ∈ records, record.pid = attempt.pid ∧
              (lowercase (trim value)).toList <:+: (lowercase record.name).toList := by
  have pattern : (AgentConfig.given? lookup .reap).map trim = config.reapOnStart :=
    (AgentConfig.ofLookup_eq_ok_iff.mp accepted).2.2.2.2
  obtain ⟨acts, ⟨swept, samples, rfl, only, start⟩, ran⟩ :=
    notes_runAgent world table self config rounds state []
  refine ⟨_, ran, ?_, ?_⟩
  · intro blank
    rw [← pattern, AgentConfig.given?_eq_none_iff.mpr blank] at start
    obtain rfl : swept = [] := start
    exact only
  · intro value held written
    rw [← pattern, AgentConfig.given?_eq_some_iff.mpr ⟨held, written⟩] at start
    have nonempty : trim value ≠ "" := fun empty => written (trim_eq_empty_iff.mp empty)
    refine ⟨nonempty, fun all => nonempty (forall_matches_iff.mp all), ?_⟩
    obtain ⟨attempts, calls, targeted⟩ :=
      exists_sweepCalls_eq table (self state) (trim value) state
    have begun : swept = .sweep (trim value) ::
        (sweepCalls table (self state) (trim value) state).map .call := start
    refine ⟨(table.snapshot.run state).1, attempts, samples, ?_, only, ?_⟩
    · rw [begun, calls, List.map_cons, List.map_map]
      rfl
    · intro attempt member
      obtain ⟨records, listed, target⟩ := targeted attempt member
      obtain ⟨other, record, found, named, same⟩ := (mem_targets_iff _ _).mp target
      exact ⟨other, records, listed, record, found, same, matches_iff.mp named⟩

end

/-- Settings with a pattern in the midst of blank characters. -/
def reaping : String → Option String
  | "REAP_ON_START" => some "\tAgent\u00a0"
  | _ => none

/-- The settings that they give. -/
def reapingConfig : AgentConfig := { reapOnStart := some "Agent" }

theorem trim_padded : trim "\tAgent\u00a0" = "Agent" := by
  rw [← String.toList_inj, toList_trim]
  simp only [String.reduceToList]
  rfl

theorem not_blank_padded : ¬Blank "\tAgent\u00a0" := by
  rw [← trim_eq_empty_iff, trim_padded]
  decide

theorem ofLookup_reaping : AgentConfig.ofLookup reaping = .ok reapingConfig := by
  refine AgentConfig.ofLookup_eq_ok_iff.mpr ⟨rfl, rfl, rfl, rfl, ?_⟩
  have given : AgentConfig.given? reaping .reap = some "\tAgent\u00a0" :=
    AgentConfig.given?_eq_some_iff.mpr ⟨rfl, not_blank_padded⟩
  rw [given, Option.map_some, trim_padded]
  rfl

/-- Surroundings in which nothing happens: time stands still, and nobody asks for a stop. -/
def idle (σ : Type) : Surroundings σ where
  clock := pure 0
  stopRequested := pure false
  waitUntil _ := pure ()
  sweep _ := pure []
  sample := pure 42

/-- An agent under these settings sweeps a family of processes, to which it belongs, and spares itself. -/
theorem acts_of_reaping :
    AgentConfig.ofLookup reaping = .ok reapingConfig ∧
      ∃ deeds after acts,
        (runAgent ((idle MemoryTable).noting MemoryTable.table fun _ => 1) reapingConfig 3).run
            (MemoryTable.family, []) = (deeds, after, acts) ∧
        ∃ (listed : Except ReaperError (List ProcessRecord)) (attempts : List Attempt)
          (samples : List Act),
          acts = .sweep "Agent" :: .call (.listing listed) ::
            attempts.map (fun attempt => .call (.kill attempt)) ++ samples ∧
          ∀ attempt ∈ attempts, attempt.pid ≠ 1 := by
  obtain ⟨acts, ran, -, sweeps⟩ := acts_of_accepted (idle MemoryTable) MemoryTable.table (fun _ => 1)
    ofLookup_reaping 3 MemoryTable.family
  obtain ⟨-, -, listed, attempts, samples, shape, -, spares⟩ :=
    sweeps "\tAgent\u00a0" rfl not_blank_padded
  rw [trim_padded] at shape
  exact ⟨ofLookup_reaping, _, _, acts, ran, listed, attempts, samples, shape,
    fun attempt member => (spares attempt member).1⟩

end Overseer.Agent
