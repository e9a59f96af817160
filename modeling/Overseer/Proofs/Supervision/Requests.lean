import Overseer.Proofs.Supervision.Programs
import Overseer.Supervision.Execute

/-!
# What a call asks the system for

A supervisor starts a child, kills it and collects it through the system, and the answers decide how the
call ends.  To see them, the call is run on a system that keeps a record of these requests
(`Platform.recording`) and does otherwise what the system does that it stands for.

`Records` compares a program on the recording system with the same program on the system itself: the results
and the states are the same, and what is added to the record has a property that may depend on the result.
There is one rule for each way in which programs are put together, so that a property of the record is shown
along with the harmlessness of keeping it.

## Main definitions

* `Request`, `waited` — requests, and the outcome of waiting for a child among them
* `Platform.recording` — a system that keeps a record
* `Records` — a program beside its record
-/

namespace Overseer

open Overseer.Capture Overseer.Os Overseer.Processes

/-- What a supervisor asks a system for, with the answers that matter. -/
inductive Request where
  /-- to start a child -/
  | launch (launch : Launch) (answer : Except OsError Pid)
  /-- to collect a child -/
  | collect (child : Pid) (answer : Except OsError ExitStatus)
  /-- to kill what the argument stands for -/
  | kill (target : Int)

namespace Request

/-- How the child ended that a request has collected, or why it could not be collected. -/
def outcome? : Request → Option (Except OsError ExitStatus)
  | collect _ answer => some answer
  | _ => none

/-- The request is one for a child. -/
def isLaunch : Request → Bool
  | launch _ _ => true
  | _ => false

/-- The request is one for a kill. -/
def isKill : Request → Bool
  | kill _ => true
  | _ => false

variable {child : Pid} {answer : Except OsError ExitStatus}

@[simp] theorem isLaunch_collect : (collect child answer).isLaunch = false := rfl

@[simp] theorem isKill_collect : (collect child answer).isKill = false := rfl

end Request

/-- **The outcome of waiting for the child**, once there is one: what the last attempt to collect it gave. -/
def waited (requests : List Request) : Option (Except OsError ExitStatus) :=
  (requests.filterMap Request.outcome?).getLast?

theorem waited_append_collect (requests : List Request) (child : Pid)
    (answer : Except OsError ExitStatus) :
    waited (requests ++ [.collect child answer]) = some answer := by
  simp [waited, Request.outcome?]

/-- Requests for other things leave the outcome as it is. -/
theorem waited_append_of_other {requests more : List Request}
    (other : ∀ r ∈ more, r.outcome? = none) : waited (requests ++ more) = waited requests := by
  have nothing : more.filterMap Request.outcome? = [] := List.filterMap_eq_nil_iff.mpr other
  rw [waited, List.filterMap_append, nothing, List.append_nil, waited]

section

variable {σ α β : Type}

/-- Does something and adds entries to the record, depending on the result. -/
def recording (entries : α → List Request) (program : StateM σ α) :
    StateM (σ × List Request) α := fun (state, record) =>
  let (a, after) := program.run state
  (a, after, record ++ entries a)

/-- A system that does what the given one does, and keeps a record of what it is asked for. -/
def Platform.recording (platform : Platform σ) : Platform (σ × List Request) where
  clock := Overseer.recording (fun _ => []) platform.clock
  timeOfDay := Overseer.recording (fun _ => []) platform.timeOfDay
  launch launch := Overseer.recording (fun answer => [.launch launch answer]) (platform.launch launch)
  await child limit := Overseer.recording (fun _ => []) (platform.await child limit)
  collect child := Overseer.recording (fun answer => [.collect child answer]) (platform.collect child)
  kill target := Overseer.recording (fun _ => [.kill target]) (platform.kill target)
  hangUp child stream := Overseer.recording (fun _ => []) (platform.hangUp child stream)
  release child := Overseer.recording (fun _ => []) (platform.release child)

/-- A program on a recording system does what another one does on the system itself, and what it adds to
the record has a property. -/
def Records (recorded : StateM (σ × List Request) α) (plain : StateM σ α)
    (property : α → List Request → Prop) : Prop :=
  ∀ state record, ∃ more,
    recorded.run (state, record) = ((plain.run state).1, (plain.run state).2, record ++ more) ∧
      property (plain.run state).1 more

variable {recorded : StateM (σ × List Request) α} {plain : StateM σ α}
variable {property : α → List Request → Prop}

theorem records_pure {a : α} (holds : property a []) :
    Records (pure a : StateM (σ × List Request) α) (pure a) property := by
  intro state record
  exact ⟨[], by rw [List.append_nil]; rfl, holds⟩

theorem records_recording (entries : α → List Request) (program : StateM σ α) :
    Records (recording entries program) program fun a more => more = entries a :=
  fun _ _ => ⟨_, rfl, rfl⟩

theorem records_bind {next : α → StateM (σ × List Request) β} {next' : α → StateM σ β}
    {property' : β → List Request → Prop} (start : Records recorded plain property)
    (rest : ∀ a front, property a front →
      Records (next a) (next' a) fun b back => property' b (front ++ back)) :
    Records (recorded >>= next) (plain >>= next') property' := by
  intro state record
  obtain ⟨front, ran, holds⟩ := start state record
  obtain ⟨back, went, holds'⟩ := rest _ front holds (plain.run state).2 (record ++ front)
  refine ⟨front ++ back, ?_, holds'⟩
  rw [run_bind, ran, run_bind, ← List.append_assoc]
  exact went

/-- What is done before the record begins to matter. -/
theorem records_bind_silent {program : StateM σ α} {next : α → StateM (σ × List Request) β}
    {next' : α → StateM σ β} {property : β → List Request → Prop}
    (rest : ∀ a, Records (next a) (next' a) property) :
    Records (recording (fun _ => []) program >>= next) (program >>= next') property := by
  refine records_bind (records_recording _ program) ?_
  rintro a _ rfl
  exact rest a

variable (platform : Platform σ) (child : Pid)

/-- A kill is one request, if there is an argument for it. -/
theorem records_sendKill (argument : Option Int) :
    Records (sendKill platform.recording.kill child argument) (sendKill platform.kill child argument)
      fun _ more => more = argument.toList.map .kill := by
  cases argument with
  | none => exact records_pure rfl
  | some target =>
      refine records_bind (records_recording (fun _ => [.kill target]) (platform.kill target)) ?_
      rintro answer _ rfl
      cases answer <;> exact records_pure rfl

/-- The requests that an effect of the supervision makes. -/
def Effect.requests (child : Pid) : Effect → List Request
  | .killChild | .killHandle => (killArgument? child).toList.map .kill
  | .killGroup => (killGroupArgument? child).toList.map .kill
  | .cutCapture => []

theorem records_effect_run (effect : Effect) (capture : Pipeline) :
    Records (effect.run platform.recording child capture) (effect.run platform child capture)
      fun _ more => more = effect.requests child := by
  have kills (argument : Option Int) :
      Records (do let _ ← sendKill platform.recording.kill child argument; pure capture)
        (do let _ ← sendKill platform.kill child argument; pure capture)
        fun _ more => more = argument.toList.map .kill := by
    refine records_bind (records_sendKill platform child argument) ?_
    rintro _ _ rfl
    exact records_pure (List.append_nil _)
  cases effect with
  | killChild => exact kills _
  | killGroup => exact kills _
  | killHandle => exact kills _
  | cutCapture => exact records_pure rfl

end

end Overseer
