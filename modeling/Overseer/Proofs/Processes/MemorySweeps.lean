import Overseer.Processes.Memory
import Overseer.Proofs.Processes.Sweeps

/-!
# Sweeps of a table in memory

The targets of a sweep are fixed by one listing, but each of its kills changes the table, and a pid may
belong to several records, of which only some match.  What the kills leave can still be said at once:
a record goes if its pid was asked for and has no fixed outcome (`MemoryTable.behind`), whatever the order
of the kills and however often a pid was asked for.

From this it follows that a sweep goes far enough, touches nothing else, and has nothing left to do when it
is repeated (`sweep_of_memory`).
-/

namespace Overseer.Processes

namespace MemoryTable

/-- What a kill answers. -/
def answer (t : MemoryTable) (pid : Pid) : Except ReaperError Unit :=
  match t.outcome? pid with
  | some e => .error e
  | none => .ok ()

/-- What is reported of kills of the given processes. -/
def report (t : MemoryTable) (pids : List Pid) : List ReaperError :=
  pids.filterMap fun pid => (Attempt.mk pid (t.answer pid)).failure?

/-- The record outlasts kills of the given processes. -/
def Outlasts (t : MemoryTable) (pids : List Pid) (record : ProcessRecord) : Prop :=
  record.pid ∉ pids ∨ t.outcome? record.pid ≠ none

instance (t : MemoryTable) (pids : List Pid) (record : ProcessRecord) :
    Decidable (t.Outlasts pids record) :=
  inferInstanceAs (Decidable (_ ∨ _))

/-- The table behind kills of the given processes. -/
def behind (t : MemoryTable) (pids : List Pid) : MemoryTable :=
  { t with
    records := t.records.filter fun r => t.Outlasts pids r
    attempts := t.attempts ++ pids }

/-- The record is the caller's, or its pid belongs to no record that matches. -/
def Untouched (t : MemoryTable) (caller : Pid) (pattern : String) (record : ProcessRecord) : Prop :=
  record.pid = caller ∨ ∀ other ∈ t.records, other.matches pattern = true → other.pid ≠ record.pid

instance (t : MemoryTable) (caller : Pid) (pattern : String) (record : ProcessRecord) :
    Decidable (t.Untouched caller pattern record) :=
  inferInstanceAs (Decidable (_ ∨ _))

variable (t : MemoryTable) (pid : Pid) (pids : List Pid)

/-! ## What kills leave -/

theorem behind_nil : t.behind [] = t := by
  have all : t.records.filter (fun r => t.Outlasts [] r) = t.records := by
    simp [Outlasts]
  rw [behind, all, List.append_nil]

/-- Kills of some processes and then of others are kills of them all. -/
theorem behind_append (first second : List Pid) :
    t.behind (first ++ second) = (t.behind first).behind second := by
  have both (record : ProcessRecord) : t.Outlasts (first ++ second) record ↔
      (t.behind first).Outlasts second record ∧ t.Outlasts first record := by
    have same : (t.behind first).outcome? record.pid = t.outcome? record.pid := rfl
    unfold Outlasts
    rw [same, List.mem_append, not_or, and_or_right, and_comm]
  have records : t.records.filter (fun r => t.Outlasts (first ++ second) r) =
      (t.behind first).records.filter fun r => (t.behind first).Outlasts second r := by
    show _ = (t.records.filter _).filter _
    rw [List.filter_filter]
    refine List.filter_congr fun record _ => ?_
    rw [← Bool.decide_and]
    exact decide_eq_decide.mpr (both record)
  rw [behind, records, ← List.append_assoc]
  rfl

/-- **One kill.** -/
theorem kill_eq : t.kill pid = (t.answer pid, t.behind [pid]) := by
  show (match t.outcome? pid with
    | some e => _
    | none => _) = _
  unfold answer behind
  cases fixed : t.outcome? pid with
  | some e =>
      -- The error is fixed, so every record with this pid outlasts the kill.
      have all : t.records.filter (fun r => t.Outlasts [pid] r) = t.records := by
        refine List.filter_eq_self.mpr fun record _ => ?_
        by_cases mine : record.pid = pid <;> simp [Outlasts, mine, fixed]
      rw [all]
  | none =>
      have others : t.records.filter (·.pid != pid) =
          t.records.filter fun r => t.Outlasts [pid] r := by
        refine List.filter_congr fun record _ => ?_
        by_cases mine : record.pid = pid <;> simp [Outlasts, mine, fixed]
      rw [← others]
      rfl

theorem run_attemptAll :
    (attemptAll table pids).run t = (pids.map fun pid => ⟨pid, t.answer pid⟩, t.behind pids) := by
  induction pids generalizing t with
  | nil => rw [run_attemptAll_nil, behind_nil, List.map_nil]
  | cons pid pids ih =>
      have one : (table.kill pid).run t = (t.answer pid, t.behind [pid]) := t.kill_eq pid
      rw [run_attemptAll_cons, one, ih, ← behind_append]
      rfl

/-! ## The sweep -/

variable {t} (caller : Pid) (pattern : String)

/-- A sweep kills its targets. -/
theorem run_sweep (readable : t.unreadable = none) :
    (tryKillByName table caller pattern).run t =
      (.ok (t.report (targets caller pattern t.records)),
        t.behind (targets caller pattern t.records)) := by
  have listed : table.snapshot.run t = (.ok t.records, t) := by
    show t.snapshot = _
    rw [snapshot, readable]
  rw [run_tryKillByName_of_listed caller pattern (congrArg Prod.fst listed), listed, run_killAll, run_attemptAll,
    List.filterMap_map]
  rfl

/-- A second sweep goes for those targets of the first that it could not kill. -/
theorem targets_behind :
    targets caller pattern (t.behind (targets caller pattern t.records)).records =
      (targets caller pattern t.records).filter fun pid => t.outcome? pid ≠ none := by
  rw [targets_eq, targets_eq, List.filter_map, behind, List.filter_filter, List.filter_filter,
    ← targets_eq]
  congr 1
  refine List.filter_congr fun record found => ?_
  rw [Bool.eq_iff_iff]
  simp only [Bool.and_eq_true, decide_eq_true_eq, Function.comp_apply]
  refine ⟨fun ⟨target, outlasts⟩ => ⟨?_, target⟩, fun ⟨fails, target⟩ => ⟨target, Or.inr fails⟩⟩
  exact outlasts.resolve_left
    fun spared => spared ((mem_targets_iff caller pattern).mpr ⟨target.1, record, found, target.2, rfl⟩)

/-- Only of processes with a fixed outcome there is something to report. -/
theorem report_filter :
    t.report (pids.filter fun pid => t.outcome? pid ≠ none) = t.report pids := by
  unfold report
  rw [List.filterMap_filter]
  congr 1
  funext pid
  cases free : t.outcome? pid <;> simp [Attempt.failure?, answer, free]

/-- Killing processes again that could not be killed changes nothing. -/
theorem behind_of_fixed (fixed : ∀ pid ∈ pids, t.outcome? pid ≠ none) :
    t.behind pids = { t with attempts := t.attempts ++ pids } := by
  have all : t.records.filter (fun r => t.Outlasts pids r) = t.records := by
    refine List.filter_eq_self.mpr fun record _ => ?_
    rw [decide_eq_true_eq]
    by_cases asked : record.pid ∈ pids
    · exact Or.inr (fixed _ asked)
    · exact Or.inl asked
  rw [behind, all]

/-- Nothing that matches is left, but for the caller and for those that could not be killed. -/
theorem fixed_of_left {record : ProcessRecord}
    (left : record ∈ (t.behind (targets caller pattern t.records)).records)
    (named : record.matches pattern = true) :
    record.pid = caller ∨ t.outcome? record.pid ≠ none := by
  obtain ⟨found, outlasts⟩ := List.mem_filter.mp left
  rw [decide_eq_true_eq] at outlasts
  by_cases mine : record.pid = caller
  · exact Or.inl mine
  · refine Or.inr (outlasts.resolve_left fun spared => spared ?_)
    exact (mem_targets_iff caller pattern).mpr ⟨mine, record, found, named, rfl⟩

/-- What a sweep does not go for stays where it was. -/
theorem filter_untouched_behind :
    (t.behind (targets caller pattern t.records)).records.filter
        (fun r => t.Untouched caller pattern r) =
      t.records.filter fun r => t.Untouched caller pattern r := by
  rw [behind, List.filter_filter]
  refine List.filter_congr fun record _ => ?_
  rw [Bool.eq_iff_iff, Bool.and_eq_true, decide_eq_true_eq, decide_eq_true_eq]
  refine ⟨And.left, fun untouched => ⟨untouched, Or.inl fun target => ?_⟩⟩
  obtain ⟨other, matching, found, named, same⟩ := (mem_targets_iff caller pattern).mp target
  rcases untouched with mine | apart
  · exact other mine
  · exact apart matching found named same

/-- A second sweep reports what the first one did and leaves the records as they are. -/
theorem run_sweep_behind (readable : t.unreadable = none) :
    (tryKillByName table caller pattern).run (t.behind (targets caller pattern t.records)) =
      (.ok (t.report (targets caller pattern t.records)),
        { t.behind (targets caller pattern t.records) with
          attempts := (t.behind (targets caller pattern t.records)).attempts ++
            (targets caller pattern t.records).filter fun pid => t.outcome? pid ≠ none }) := by
  have fixed : ∀ pid ∈ (targets caller pattern t.records).filter (fun pid => t.outcome? pid ≠ none),
      t.outcome? pid ≠ none := fun pid member => by simpa using (List.mem_filter.mp member).2
  rw [run_sweep (t := t.behind _) caller pattern readable, targets_behind,
    behind_of_fixed (t := t.behind _) _ fixed, ← report_filter (t := t)]
  rfl

/-- **A sweep of a table in memory.**  It goes far enough: what is left and matches is the caller's or has a
fixed outcome.  It goes no further: the caller's records and those whose pid no matching record has are
all still there, in their order, and nothing but the records changes.  And it need not be repeated: a
second sweep reports the same failures and leaves the table as it is. -/
theorem sweep_of_memory (t : MemoryTable) (caller : Pid) (pattern : String)
    (readable : t.unreadable = none) :
    ∃ failures after again,
      (tryKillByName table caller pattern).run t = (.ok failures, after) ∧
      (killByName table caller pattern).run t = (failures, after) ∧
      (∀ record ∈ after.records, record.matches pattern = true →
        record.pid = caller ∨ t.outcome? record.pid ≠ none) ∧
      after.records.Sublist t.records ∧
      after.records.filter (fun r => t.Untouched caller pattern r) =
        t.records.filter (fun r => t.Untouched caller pattern r) ∧
      { after with records := t.records, attempts := t.attempts } = t ∧
      (tryKillByName table caller pattern).run after = (.ok failures, again) ∧
      (killByName table caller pattern).run after = (failures, again) ∧
      { again with attempts := after.attempts } = after := by
  have first := run_sweep caller pattern readable
  have second := run_sweep_behind caller pattern readable
  refine ⟨_, _, _, first, ?_, fun _ left named => fixed_of_left caller pattern left named, List.filter_sublist,
    filter_untouched_behind caller pattern, rfl, second, ?_, rfl⟩
  · rw [run_killByName, first]
    rfl
  · rw [run_killByName, second]
    rfl

/-- A family of processes.  The caller, which is process 1, has its name, one process cannot be killed,
and one pid is listed three times, once under another name. -/
def family : MemoryTable where
  records := [⟨1, "agent"⟩, ⟨10, "Agent"⟩, ⟨11, "agent-helper"⟩, ⟨10, "editor"⟩, ⟨12, "editor"⟩,
    ⟨10, "AGENT"⟩]
  outcomes := [(11, .permissionDenied 11)]

/-- Of the family the caller, the process that cannot be killed and the stranger are left. -/
theorem sweep_of_family : family.unreadable = none ∧ ∃ failures after again,
    (tryKillByName table 1 "agent").run family = (.ok failures, after) ∧
      (tryKillByName table 1 "agent").run after = (.ok failures, again) ∧
      failures = [.permissionDenied 11] ∧
      after.records = [⟨1, "agent"⟩, ⟨11, "agent-helper"⟩, ⟨12, "editor"⟩] ∧
      again.records = after.records := by
  obtain ⟨failures, after, again, first, -, -, -, -, -, second, -, same⟩ :=
    sweep_of_memory family 1 "agent" rfl
  have reported : family.report (targets 1 "agent" family.records) = [.permissionDenied 11] := by
    decide +kernel
  have left : (family.behind (targets 1 "agent" family.records)).records =
      [⟨1, "agent"⟩, ⟨11, "agent-helper"⟩, ⟨12, "editor"⟩] := by
    decide +kernel
  obtain ⟨sameFailures, sameTable⟩ := Prod.mk.inj (first.symm.trans (run_sweep 1 "agent" rfl))
  refine ⟨rfl, failures, after, again, first, second, ?_, ?_, ?_⟩
  · rw [Except.ok.inj sameFailures, reported]
  · rw [sameTable, left]
  · rw [← same]

end MemoryTable

end Overseer.Processes
