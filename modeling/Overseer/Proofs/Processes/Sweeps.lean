import Overseer.Processes.Reaper
import Overseer.Proofs.Supervision.Programs

/-!
# What a sweep does to a process table

A sweep asks a table for its listing and then for kills, and a table may answer whatever it likes: its
answers may change from call to call, and a pid may be listed twice.  To see what a sweep asks for, it is
run on a table that notes every call (`ProcessTable.noting`) and answers like the table itself.

The kills of a sweep are those of `attemptAll`, which goes through all its processes and never looks at
an answer; what a sweep reports is read off the answers afterwards (`run_killAll`).  `calls_of_sweep`
puts this together: which calls a sweep makes, in which order, and what it makes of the answers.

## Main definitions

* `Attempt`, `TableCall` — what is asked of a table, with the answers
* `ProcessTable.noting` — a table that notes the calls
* `Attempt.failure?` — what is reported of an attempt
* `attemptAll` — attempts on processes one after another
* `sweepCalls` — the calls that a sweep makes
-/

namespace Overseer.Processes

/-- An attempt to kill a process. -/
structure Attempt where
  /-- the process -/
  pid : Pid
  /-- what came of it -/
  answer : Except ReaperError Unit

/-- What is reported of an attempt: its error, unless the process was gone. -/
def Attempt.failure? (attempt : Attempt) : Option ReaperError :=
  match attempt.answer with
  | .ok () => none
  | .error (.notFound _) => none
  | .error e => some e

/-- A call of a process table, with its answer. -/
inductive TableCall where
  /-- the processes were listed -/
  | listing (answer : Except ReaperError (List ProcessRecord))
  /-- a process was to be killed -/
  | kill (attempt : Attempt)

section

variable {σ : Type}

/-- A table that answers like the given one and notes the calls. -/
def ProcessTable.noting (table : ProcessTable σ) : ProcessTable (σ × List TableCall) where
  snapshot := fun (state, calls) =>
    let (answer, state) := table.snapshot.run state
    (answer, state, calls ++ [.listing answer])
  kill pid := fun (state, calls) =>
    let (answer, state) := (table.kill pid).run state
    (answer, state, calls ++ [.kill ⟨pid, answer⟩])

/-- Attempts on processes one after another, whatever comes of them. -/
def attemptAll (table : ProcessTable σ) : List Pid → StateM σ (List Attempt)
  | [] => pure []
  | pid :: rest => do
    let answer ← table.kill pid
    let later ← attemptAll table rest
    pure (⟨pid, answer⟩ :: later)

variable (table : ProcessTable σ) (caller : Pid) (pattern : String) (pids : List Pid) (state : σ)

/-! ## The kills of a sweep -/

@[simp] theorem run_attemptAll_nil : (attemptAll table []).run state = ([], state) := rfl

theorem run_attemptAll_cons (pid : Pid) :
    (attemptAll table (pid :: pids)).run state =
      (⟨pid, ((table.kill pid).run state).1⟩ ::
          ((attemptAll table pids).run ((table.kill pid).run state).2).1,
        ((attemptAll table pids).run ((table.kill pid).run state).2).2) :=
  rfl

/-- Every process is attempted, in order and as often as it is asked for. -/
theorem map_pid_attemptAll : ((attemptAll table pids).run state).1.map (·.pid) = pids := by
  induction pids generalizing state with
  | nil => rfl
  | cons pid pids ih => rw [run_attemptAll_cons, List.map_cons, ih]

/-- **A report on all attempts.**  The failures of killing processes are read off the attempts, and
nothing else is done to the table. -/
theorem run_killAll :
    (killAll table pids).run state =
      (((attemptAll table pids).run state).1.filterMap (·.failure?),
        ((attemptAll table pids).run state).2) := by
  induction pids generalizing state with
  | nil => rfl
  | cons pid pids ih =>
      rw [killAll, run_bind, run_bind, ih, run_attemptAll_cons]
      rcases ((table.kill pid).run state).1 with e | -
      · cases e <;> rfl
      · rfl

theorem run_attemptAll_noting (calls : List TableCall) :
    (attemptAll table.noting pids).run (state, calls) =
      (((attemptAll table pids).run state).1, ((attemptAll table pids).run state).2,
        calls ++ ((attemptAll table pids).run state).1.map .kill) := by
  induction pids generalizing state calls with
  | nil => simp
  | cons pid pids ih =>
      have kill : (table.noting.kill pid).run (state, calls) =
          (((table.kill pid).run state).1, ((table.kill pid).run state).2,
            calls ++ [.kill ⟨pid, ((table.kill pid).run state).1⟩]) := rfl
      rw [run_attemptAll_cons, run_attemptAll_cons, kill, ih]
      simp

/-! ## The sweep -/

variable {table state} {error : ReaperError} {records : List ProcessRecord}

theorem run_tryKillByName_of_unreadable (unreadable : (table.snapshot.run state).1 = .error error) :
    (tryKillByName table caller pattern).run state =
      (.error error, (table.snapshot.run state).2) := by
  rw [tryKillByName, run_bind, unreadable]
  rfl

theorem run_tryKillByName_of_listed (listed : (table.snapshot.run state).1 = .ok records) :
    (tryKillByName table caller pattern).run state =
      (.ok ((killAll table (targets caller pattern records)).run (table.snapshot.run state).2).1,
        ((killAll table (targets caller pattern records)).run (table.snapshot.run state).2).2) := by
  rw [tryKillByName, run_bind, listed]
  rfl

variable (table state)

/-- A sweep that hides the failure of the listing does the same as one that does not. -/
theorem run_killByName :
    (killByName table caller pattern).run state =
      (((tryKillByName table caller pattern).run state).1.toOption.getD [],
        ((tryKillByName table caller pattern).run state).2) := by
  rw [killByName, run_bind]
  cases ((tryKillByName table caller pattern).run state).1 <;> rfl

theorem targets_eq (records : List ProcessRecord) :
    targets caller pattern records =
      (records.filter fun r => r.pid ≠ caller ∧ r.matches pattern = true).map (·.pid) := by
  unfold targets
  congr 2
  funext record
  rw [Bool.eq_iff_iff]
  simp

theorem mem_targets_iff {records : List ProcessRecord} {pid : Pid} :
    pid ∈ targets caller pattern records ↔
      pid ≠ caller ∧ ∃ record ∈ records, record.matches pattern = true ∧ record.pid = pid := by
  rw [targets_eq, List.mem_map]
  simp only [List.mem_filter, decide_eq_true_eq]
  constructor
  · rintro ⟨record, ⟨found, other, named⟩, rfl⟩
    exact ⟨other, record, found, named, rfl⟩
  · rintro ⟨other, record, found, named, rfl⟩
    exact ⟨record, ⟨found, other, named⟩, rfl⟩

/-- The calls that a sweep makes: the listing, and the attempts on its targets behind it. -/
def sweepCalls : List TableCall :=
  match (table.snapshot.run state).1 with
  | .error error => [.listing (.error error)]
  | .ok records =>
    .listing (.ok records) ::
      ((attemptAll table (targets caller pattern records)).run
        (table.snapshot.run state).2).1.map .kill

/-- A sweep that is noted does what it does otherwise. -/
theorem run_tryKillByName_noting (calls : List TableCall) :
    (tryKillByName table.noting caller pattern).run (state, calls) =
      (((tryKillByName table caller pattern).run state).1,
        ((tryKillByName table caller pattern).run state).2,
        calls ++ sweepCalls table caller pattern state) := by
  have noted : table.noting.snapshot.run (state, calls) =
      ((table.snapshot.run state).1, (table.snapshot.run state).2,
        calls ++ [.listing (table.snapshot.run state).1]) := rfl
  unfold sweepCalls
  cases listed : (table.snapshot.run state).1 with
  | error error =>
      rw [listed] at noted
      rw [run_tryKillByName_of_unreadable caller pattern listed,
        run_tryKillByName_of_unreadable caller pattern (congrArg Prod.fst noted), noted]
  | ok records =>
      rw [listed] at noted
      rw [run_tryKillByName_of_listed caller pattern listed,
        run_tryKillByName_of_listed caller pattern (congrArg Prod.fst noted), noted, run_killAll,
        run_killAll, run_attemptAll_noting]
      simp

theorem run_killByName_noting (calls : List TableCall) :
    (killByName table.noting caller pattern).run (state, calls) =
      (((killByName table caller pattern).run state).1,
        ((killByName table caller pattern).run state).2,
        calls ++ sweepCalls table caller pattern state) := by
  rw [run_killByName, run_killByName, run_tryKillByName_noting]

/-- The calls of a sweep are one listing and attempts on targets. -/
theorem exists_sweepCalls_eq :
    ∃ attempts : List Attempt,
      sweepCalls table caller pattern state =
        .listing (table.snapshot.run state).1 :: attempts.map .kill ∧
      ∀ attempt ∈ attempts, ∃ records, (table.snapshot.run state).1 = .ok records ∧
        attempt.pid ∈ targets caller pattern records := by
  unfold sweepCalls
  cases listed : (table.snapshot.run state).1 with
  | error error => exact ⟨[], rfl, nofun⟩
  | ok records =>
      refine ⟨_, rfl, fun attempt member => ⟨records, rfl, ?_⟩⟩
      rw [← map_pid_attemptAll table (targets caller pattern records) (table.snapshot.run state).2]
      exact List.mem_map_of_mem member

/-- **The calls of a sweep.**  Whatever the table answers, a sweep that notes its calls gives the same
answer, and leaves the same table, as one that does not, and the two kinds of sweep make the same calls.

If the table cannot be listed, this is the only call.  Otherwise it is the first one, and behind it come
the attempts on the listed processes that match the pattern and are not the caller, in the order of the
listing and as often as they are listed, whatever comes of them; the answer is the errors of these
attempts in the same order, but for those of processes that were gone. -/
theorem calls_of_sweep :
    ∃ answer after calls,
      (tryKillByName table.noting caller pattern).run (state, []) = (answer, after, calls) ∧
      (killByName table.noting caller pattern).run (state, []) =
        (answer.toOption.getD [], after, calls) ∧
      (tryKillByName table caller pattern).run state = (answer, after) ∧
      (killByName table caller pattern).run state = (answer.toOption.getD [], after) ∧
      (∀ error, (table.snapshot.run state).1 = .error error →
        answer = .error error ∧ calls = [.listing (.error error)]) ∧
      (∀ records, (table.snapshot.run state).1 = .ok records →
        ∃ attempts : List Attempt,
          calls = .listing (.ok records) :: attempts.map .kill ∧
          attempts.map (·.pid) =
            (records.filter fun r => r.pid ≠ caller ∧ r.matches pattern = true).map (·.pid) ∧
          answer = .ok (attempts.filterMap (·.failure?))) ∧
      ∀ attempt, .kill attempt ∈ calls → attempt.pid ≠ caller := by
  refine ⟨_, _, _, run_tryKillByName_noting table caller pattern state [], ?_, rfl,
    run_killByName table caller pattern state, ?_, ?_, ?_⟩
  · rw [run_killByName_noting, run_killByName]
  · intro error unreadable
    rw [run_tryKillByName_of_unreadable caller pattern unreadable, sweepCalls, unreadable]
    exact ⟨rfl, rfl⟩
  · intro records listed
    rw [run_tryKillByName_of_listed caller pattern listed, run_killAll, sweepCalls, listed]
    refine ⟨_, rfl, ?_, rfl⟩
    rw [map_pid_attemptAll, targets_eq]
  · intro attempt member
    obtain ⟨attempts, calls, targeted⟩ := exists_sweepCalls_eq table caller pattern state
    rw [List.nil_append, calls] at member
    obtain ⟨records, -, target⟩ := targeted attempt (by simpa using member)
    exact ((mem_targets_iff caller pattern).mp target).1

end

end Overseer.Processes
