import Overseer.Proofs.Processes.Matching
import Overseer.Proofs.Processes.Sweeps
import Overseer.Proofs.Text.FinalSigma

/-!
# Names that contain a pattern as written

Name and pattern are lower-cased each for itself, as whole texts.  A name that contains the pattern letter
for letter need not match it for that reason: a `Σ` may end a word in the pattern and not in the name, or
the other way round.  `matches_of_contained_iff` says for which patterns this cannot happen.  They are
those that settle the form of each `Σ` in them (`SettlesSigmas`), and so all patterns without a `Σ`; a
sweep by such a pattern goes for every process whose name contains it.  For each other pattern there is a
name that contains it and does not match.
-/

namespace Overseer.Processes

open Overseer.Text

/-- A pattern that settles its sigmas matches every name that contains it. -/
theorem matches_of_infix {record : ProcessRecord} {pattern : String}
    (settles : SettlesSigmas pattern.toList) (contained : pattern.toList <:+: record.name.toList) :
    record.matches pattern = true := by
  obtain ⟨front, back, name⟩ := contained
  rw [matches_iff, toList_lowercase, toList_lowercase, ← name, lowerChars_append_append,
    lowerWithin_of_settled settles]
  exact ⟨_, _, List.append_assoc ..⟩

/-- A pattern that does not is found in a name that it does not match. -/
theorem exists_not_matches {pattern : String} (loose : ¬SettlesSigmas pattern.toList) :
    ∃ front back : String, ∀ pid,
      (ProcessRecord.mk pid (front ++ pattern ++ back)).matches pattern = false := by
  obtain ⟨x, y, missing⟩ := exists_not_infix_lowerChars loose
  refine ⟨.ofList x, .ofList y, fun pid => ?_⟩
  rw [← Bool.not_eq_true, matches_iff, toList_lowercase, toList_lowercase]
  simpa using missing

theorem settlesSigmas_of_notMem {cs : List Char} (none : 'Σ' ∉ cs) : SettlesSigmas cs := by
  rintro front rest rfl
  exact absurd (List.mem_append_right front List.mem_cons_self) none

/-- A sweep of a table that can be listed attempts to kill each of its targets. -/
theorem exists_kill_of_mem_targets {σ : Type} (table : ProcessTable σ) (state : σ) {caller pid : Pid}
    {pattern : String} {records : List ProcessRecord}
    (listed : (table.snapshot.run state).1 = .ok records)
    (target : pid ∈ targets caller pattern records) :
    ∃ attempt, .kill attempt ∈ ((tryKillByName table.noting caller pattern).run (state, [])).2.2 ∧
      attempt.pid = pid := by
  rw [← map_pid_attemptAll table (targets caller pattern records) (table.snapshot.run state).2] at target
  obtain ⟨attempt, made, rfl⟩ := List.mem_map.mp target
  refine ⟨attempt, ?_, rfl⟩
  rw [run_tryKillByName_noting, sweepCalls, listed]
  exact List.mem_cons_of_mem _ (List.mem_map_of_mem made)

/-- **When every name that contains the pattern matches it.**  This is so exactly if the pattern settles
its sigmas, as a pattern without a `Σ` does.  By such a pattern, a sweep attempts every process whose name
contains the pattern as it is written, but for the caller. -/
theorem matches_of_contained_iff (pattern : String) :
    ((∀ (pid : Pid) (front back : String),
        (ProcessRecord.mk pid (front ++ pattern ++ back)).matches pattern = true) ↔
      SettlesSigmas pattern.toList) ∧
    ('Σ' ∉ pattern.toList → SettlesSigmas pattern.toList) ∧
    (SettlesSigmas pattern.toList →
      ∀ (σ : Type) (table : ProcessTable σ) (state : σ) (caller : Pid) (records : List ProcessRecord),
        (table.snapshot.run state).1 = .ok records →
        ∀ record ∈ records, record.pid ≠ caller → pattern.toList <:+: record.name.toList →
          ∃ attempt,
            .kill attempt ∈ ((tryKillByName table.noting caller pattern).run (state, [])).2.2 ∧
            attempt.pid = record.pid) := by
  refine ⟨⟨fun all => ?_, fun settles pid front back => ?_⟩, settlesSigmas_of_notMem, ?_⟩
  · by_contra loose
    obtain ⟨front, back, missed⟩ := exists_not_matches loose
    exact absurd (all 1 front back) (by rw [missed]; exact Bool.noConfusion)
  · refine matches_of_infix settles ⟨front.toList, back.toList, ?_⟩
    rw [String.toList_append, String.toList_append]
  · intro settles σ table state caller records listed record member other contained
    refine exists_kill_of_mem_targets table state listed ?_
    rw [mem_targets_iff]
    exact ⟨other, record, member, matches_of_infix settles contained, rfl⟩

/-- **A name may contain the pattern and not match it.**  The first word ends in a `Σ` that is within the
second one. -/
theorem not_every_contained_pattern_matches :
    ¬∀ (pid : Pid) (front pattern back : String),
      (ProcessRecord.mk pid (front ++ pattern ++ back)).matches pattern = true := by
  intro all
  have found := all 1 "" "ΟΔΥΣ" "ΣΕΥΣ"
  revert found
  decide +kernel

end Overseer.Processes
