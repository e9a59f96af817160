import Overseer.Host.Platform
import Overseer.Proofs.Supervision.Attendance
import Overseer.Proofs.Supervision.Launches
import Overseer.Proofs.Supervision.Requests
import Overseer.Proofs.Supervision.Timelines

/-!
# The status of a call

A call fails before anything runs or not at all, and the fields of its status agree with each other, although
they come from three sources: the outcome of waiting for the child, the verdict of the watchdog, and the kill
through the handle.

The record of what the call has asked the system for is the measure of both (`status_of_requests`).  During a
supervision the parties and the record tell the same (`Tallies`); this is shown step by step
(`Tallies.perform`, `records_receive`) and then for the whole supervision (`records_superviseFor`).  What the
report makes of it is a matter of its definition (`reflects_report`).
-/

namespace Overseer

open Overseer.Capture Overseer.Os Overseer.Processes Overseer.Time

/-! ## The parties and the record -/

/-- **The parties of a supervision and its record tell the same**: how the child was collected, whether the
watchdog has killed it, and that nothing else was started. -/
structure Tallies (child : Pid) (c : Control) (requests : List Request) : Prop where
  outcome : c.outcome? = waited requests
  fired : 0 < child.toNat ∧ child.toNat ≤ maxPid →
    (c.watchdog = .fired ↔ ∃ r ∈ requests, r.isKill = true)
  unlaunched : ∀ r ∈ requests, r.isLaunch = false

section

variable {child : Pid} {c : Control} {now : Nat} {event : Event} {effect : Effect}
variable {record : List Request}

/-- The effects of a supervision ask for kills and for nothing else. -/
theorem Effect.isKill_of_mem_requests {r : Request} (member : r ∈ effect.requests child) :
    r.isKill = true := by
  cases effect <;> simp_all [Effect.requests] <;> obtain ⟨target, -, rfl⟩ := member <;> rfl

theorem Effect.requests_ne_nil (effect : Effect) (valid : 0 < child.toNat ∧ child.toNat ≤ maxPid)
    (kills : effect ≠ .cutCapture) : effect.requests child ≠ [] := by
  have number : killArgument? child = some (child.toNat : Int) :=
    checkedPid?_eq_some_iff.mpr ⟨valid.1, valid.2, rfl⟩
  have opposite : killGroupArgument? child = some (-(child.toNat : Int)) := by
    rw [killGroupArgument?, ← killArgument?, number, Option.map_some]
  cases effect <;> simp_all [Effect.requests]

/-- The kill through the handle comes behind that of the watchdog. -/
theorem Control.Orderly.fired_of_useHandle (orderly : c.Orderly)
    (next : c.next? now = some .useHandle) : c.watchdog = .fired := by
  have ok := Control.enabled_of_next? next
  simp only [Control.enabled, Bool.and_eq_true, Bool.not_eq_true', decide_eq_true_eq] at ok
  obtain ⟨⟨uncollected, -⟩, late⟩ := ok
  cases watchdog : c.watchdog with
  | fired => rfl
  | stoodDown =>
      have collected := orderly.collected (orderly.announced watchdog)
      simp [uncollected] at collected
  | armed =>
      -- The deadline has passed as well, and the watchdog would have been the first to notice.
      have passed : c.deadline ≤ now := orderly.inOrder.trans late
      have silent : c.announced = false := by
        refine Bool.eq_false_iff.mpr fun told => ?_
        simp [orderly.collected told] at uncollected
      simp [Control.next?, Control.enabled, uncollected, silent, watchdog, passed] at next

/-- The requests that a step of the parties makes. -/
def Control.requests (child : Pid) (c : Control) (event : Event) : List Request :=
  (c.effect? event).elim [] (Effect.requests child)

/-- **What the parties do next is in the record.** -/
theorem Tallies.perform (tallies : Tallies child c record) (orderly : c.Orderly)
    (next : c.next? now = some event) :
    Tallies child (c.perform now event) (record ++ c.requests child event) := by
  have kills : ∀ r ∈ c.requests child event, r.isKill = true := by
    intro r member
    unfold Control.requests at member
    cases effect : c.effect? event with
    | none => simp [effect] at member
    | some effect' =>
        rw [effect] at member
        exact Effect.isKill_of_mem_requests member
  have ok := Control.enabled_of_next? next
  have other : ∀ r ∈ c.requests child event, r.outcome? = none ∧ r.isLaunch = false := by
    intro r member
    have kill := kills r member
    cases r <;> simp_all [Request.isKill, Request.outcome?, Request.isLaunch]
  refine ⟨?_, fun valid => ?_, ?_⟩
  · rw [waited_append_of_other fun r member => (other r member).1, ← tallies.outcome]
    cases event <;> first | rfl | exact absurd (List.mem_of_find?_eq_some next) (by simp)
  · simp only [List.mem_append, or_and_right, exists_or, ← tallies.fired valid]
    cases event with
    | fire =>
        obtain ⟨r, member⟩ := List.exists_mem_of_ne_nil _
          (Effect.requests_ne_nil (if c.detached then .killGroup else .killChild) valid
            (by split <;> decide))
        exact iff_of_true rfl (Or.inr ⟨r, member, kills r member⟩)
    | useHandle =>
        have fired := orderly.fired_of_useHandle next
        exact iff_of_true fired (Or.inl fired)
    | standDown =>
        have armed : c.watchdog = .armed := by simp_all [Control.enabled]
        simp [Control.perform, armed, Control.requests, Control.effect?]
    | _ => simp [Control.perform, Control.requests, Control.effect?, Effect.requests]
  · rw [List.forall_mem_append]
    exact ⟨tallies.unlaunched, fun r member => (other r member).2⟩

end

/-! ## The record of a supervision -/

section

variable {σ : Type} (platform : Platform σ) (child : Pid) {s : Supervision} {front : List Request}

theorem records_receive (news : News) (orderly : s.control.Orderly)
    (tallies : Tallies child s.control front) :
    Records (s.receive platform.recording child news) (s.receive platform child news)
      fun next more => next.control.Orderly ∧ Tallies child next.control (front ++ more) := by
  have same : Tallies child s.control (front ++ []) := by rwa [List.append_nil]
  cases news with
  | output stream bytes => exact records_pure ⟨orderly, same⟩
  | ended stream => exact records_pure ⟨orderly, same⟩
  | quiet => exact records_pure ⟨orderly, same⟩
  | exited =>
      refine records_bind_silent fun now => ?_
      refine records_bind
        (records_recording (fun answer => [.collect child answer]) (platform.collect child)) ?_
      rintro outcome _ rfl
      refine records_pure ⟨orderly.collect outcome, ?_⟩
      rw [List.append_nil]
      refine ⟨(waited_append_collect front child outcome).symm, fun valid => ?_, ?_⟩
      · refine (tallies.fired valid).trans ?_
        simp [or_and_right, exists_or]
      · rw [List.forall_mem_append, List.forall_mem_singleton]
        exact ⟨tallies.unlaunched, rfl⟩

/-- **A supervision and its record tell the same.** -/
theorem records_superviseFor (n : Nat) (orderly : s.control.Orderly)
    (tallies : Tallies child s.control front) :
    Records (superviseFor platform.recording child n s) (superviseFor platform child n s)
      fun last more => last.control.Orderly ∧ Tallies child last.control (front ++ more) := by
  have stay (s : Supervision) (front : List Request) (orderly : s.control.Orderly)
      (tallies : Tallies child s.control front) :
      s.control.Orderly ∧ Tallies child s.control (front ++ []) := by
    rw [List.append_nil]
    exact ⟨orderly, tallies⟩
  induction n generalizing s front with
  | zero => exact records_pure (stay s front orderly tallies)
  | succ n ih =>
      rw [superviseFor, superviseFor]
      split
      · exact records_pure (stay s front orderly tallies)
      · refine records_bind_silent fun now => ?_
        cases next : s.control.next? now with
        | some event =>
            have tallies := tallies.perform orderly next
            have orderly := orderly.perform (Control.enabled_of_next? next)
            unfold Control.requests at tallies
            dsimp only
            cases does : s.control.effect? event with
            | none =>
                rw [does, Option.elim_none, List.append_nil] at tallies
                exact ih orderly tallies
            | some effect =>
                rw [does, Option.elim_some] at tallies
                refine records_bind (records_effect_run platform child effect s.capture) ?_
                rintro capture _ rfl
                simpa only [List.append_assoc] using
                  ih (s := ⟨s.control.perform now event, capture⟩) orderly tallies
        | none =>
            refine records_bind_silent fun news => ?_
            refine records_bind (records_receive platform child news orderly tallies) ?_
            rintro s more ⟨orderly, tallies⟩
            simpa only [List.append_assoc] using ih orderly tallies

end

/-! ## The report -/

/-- **The status of a result reflects what happened to the child**, by the requests that were made behind its
launch.  That nothing was `waited` for means that the steps of the supervision ran out before the child was
collected. -/
structure Reflects (child : Pid) (requests : List Request) (result : ExecutionResult) : Prop where
  complete : result.status.complete = true ↔ result.status.exitCode ≠ none
  exclusive : result.status.exitCode = none ∨ result.status.signal = none
  collected : ∀ status, waited requests = some (.ok status) →
    result.status.exitCode = status.code? ∧ result.status.signal = status.signal?
  absent : result.status.exitCode = none ∧ result.status.signal = none ↔
    (∃ error, waited requests = some (.error error)) ∨ waited requests = none
  timedOut : 0 < child.toNat ∧ child.toNat ≤ maxPid →
    (result.status.timedOut = true ↔ ∃ r ∈ requests, r.isKill = true)
  success : result.isSuccess = true ↔
    waited requests = some (.ok (.code 0)) ∧ result.status.timedOut = false

theorem reflects_report {child : Pid} {s : Supervision} {requests : List Request}
    (tallies : Tallies child s.control requests) (startedAt : Timestamp) (runtimeMs : UInt64) :
    Reflects child requests (report child startedAt runtimeMs s.seen) := by
  have outcome : s.seen.outcome = (waited requests).getD (.error (.ofErrno .noChild)) := by
    rw [← tallies.outcome]
    rfl
  have timedOut : s.seen.timedOut = true ↔ s.control.watchdog = .fired := by
    simp [Supervision.seen, Control.timedOut]
  have exitCode (answer) (same : waited requests = answer) :
      (report child startedAt runtimeMs s.seen).status.exitCode =
        (answer.bind Except.toOption).bind (·.code?) := by
    simp only [report, outcome, same]
    rcases answer with _ | _ | _ <;> rfl
  have signal (answer) (same : waited requests = answer) :
      (report child startedAt runtimeMs s.seen).status.signal =
        (answer.bind Except.toOption).bind (·.signal?) := by
    simp only [report, outcome, same]
    rcases answer with _ | _ | _ <;> rfl
  refine ⟨Option.isSome_iff_ne_none, ?_, ?_, ?_, fun valid => timedOut.trans (tallies.fired valid), ?_⟩
  · rw [exitCode _ rfl, signal _ rfl]
    rcases waited requests with _ | _ | _ | _ <;> simp [Except.toOption, ExitStatus.code?, ExitStatus.signal?]
  · rintro status collected
    rw [exitCode _ collected, signal _ collected]
    exact ⟨rfl, rfl⟩
  · rw [exitCode _ rfl, signal _ rfl]
    rcases waited requests with _ | _ | _ | _ <;> simp [Except.toOption, ExitStatus.code?, ExitStatus.signal?]
  · have complete : (report child startedAt runtimeMs s.seen).status.complete =
      (report child startedAt runtimeMs s.seen).status.exitCode.isSome := rfl
    rw [ExecutionResult.isSuccess, complete, exitCode _ rfl]
    rcases waited requests with _ | _ | _ | _ <;> simp [Except.toOption, ExitStatus.code?, and_comm]

/-! ## The call -/

/-- A program that cannot be started leaves a host as it was. -/
theorem Host.World.launch_eq_of_error {launch : Launch} {world : Host.World} {cause : OsError}
    (failed : (Host.World.launch launch world).1 = .error cause) :
    (Host.World.launch launch world).2 = world := by
  unfold Host.World.launch at failed ⊢
  split
  · rfl
  · next zeroFree =>
    rw [if_neg zeroFree] at failed
    dsimp only at failed ⊢
    split
    · rfl
    · next found =>
      rw [found] at failed
      cases failed

section

variable {σ : Type}

/-- A call without time is refused, and the system is not asked for anything. -/
theorem run_executeFor_of_zero (platform : Platform σ) {spec : CommandSpec} {state : σ} {steps : Nat}
    (zero : spec.timeout = .zero) :
    (executeFor steps platform spec).run state = (.refused .invalidTimeout, state) := by
  have invalid : spec.validate = .error .invalidTimeout := by
    rw [CommandSpec.validate, Duration.isZero_iff.mpr zero]
    rfl
  unfold executeFor
  rw [invalid]
  rfl

/-- The parties when the child has just been started. -/
def CommandSpec.atStart (spec : CommandSpec) (start : Nat) (lastResort : Duration) : Control where
  deadline := start + spec.timeout.nanoseconds
  lastResort := start + lastResort.nanoseconds
  detached := spec.detached

theorem CommandSpec.orderly_atStart {spec : CommandSpec} {lastResort : Duration}
    (sum : spec.timeout.add? killGrace = some lastResort) (start : Nat) :
    (spec.atStart start lastResort).Orderly := by
  refine ⟨nofun, nofun, nofun, nofun, ?_⟩
  have total := Duration.nanoseconds_of_ofNanoseconds? sum
  simp only [atStart]
  omega

theorem tallies_start (child : Pid) (spec : CommandSpec) (start : Nat) (lastResort : Duration) :
    Tallies child (spec.atStart start lastResort) [] :=
  ⟨rfl, fun _ => iff_of_false nofun (by simp), nofun⟩

/-- A supervision begins with a look at the clock, from which its deadlines count. -/
theorem run_supervise {platform : Platform σ} {spec : CommandSpec} {steps : Nat} {child : Pid}
    {lastResort : Duration} {state after : σ} {begun : Nat}
    (clock : platform.clock.run state = (begun, after)) :
    let last := (superviseFor platform child steps ⟨spec.atStart begun lastResort, {}⟩).run after
    (supervise platform spec steps child lastResort).run state =
      (last.1.seen, ((platform.release child).run last.2).2) := by
  unfold supervise
  rw [run_bind, clock]
  rfl

/-- The record of a supervision, from the launch of the child on, and what it says of the outcome.  If the
system attends to the child, the child has been collected. -/
theorem exists_requests_of_supervise (platform : Platform σ) (spec : CommandSpec) (steps : Nat)
    (child : Pid) {lastResort : Duration}
    (sum : spec.timeout.add? killGrace = some lastResort) (state : σ) (record : List Request) :
    ∃ (s : Supervision) (later : List Request),
      (supervise platform.recording spec steps child lastResort).run (state, record) =
        (((supervise platform spec steps child lastResort).run state).1,
          ((supervise platform spec steps child lastResort).run state).2, record ++ later) ∧
      ((supervise platform spec steps child lastResort).run state).1 = s.seen ∧
      Tallies child s.control later ∧
      ∀ known, Attends platform child known → known.told state = false →
        known.outstanding state + 10 ≤ steps → waited later ≠ none := by
  obtain ⟨⟨begun, after⟩, clock⟩ : ∃ r, platform.clock.run state = r := ⟨_, rfl⟩
  have recorded : platform.recording.clock.run (state, record) = (begun, after, record) := by
    have silent : platform.recording.clock.run (state, record) =
        ((platform.clock.run state).1, (platform.clock.run state).2, record ++ []) := rfl
    rw [silent, clock, List.append_nil]
  obtain ⟨later, ran, orderly, tallies⟩ := records_superviseFor platform child steps
    (s := ⟨spec.atStart begun lastResort, {}⟩) (spec.orderly_atStart sum begun)
    (tallies_start child spec begun lastResort) after record
  rw [run_supervise clock, run_supervise recorded, ran]
  refine ⟨_, later, ?_, rfl, tallies, fun known attends untold enough => ?_⟩
  · change (_, _, record ++ later ++ []) = _
    rw [List.append_nil]
    rfl
  · have same := attends.clock state
    rw [clock] at same
    have progress : InProgress known child ⟨spec.atStart begun lastResort, {}⟩ after :=
      ⟨spec.orderly_atStart sum begun, rfl, nofun, fun told => by simp [same.2.1, untold] at told, nofun⟩
    have done := finished_superviseFor attends progress (same.1 ▸ enough)
    have outcome : _ = waited later := tallies.outcome
    rw [← outcome, ← Option.isSome_iff_ne_none]
    exact orderly.outcome?_isSome done

/-- The record of a call begins with the answer to its launch. -/
theorem run_launchAnswer_recording (platform : Platform σ) (spec : CommandSpec) (state : σ) :
    (launchAnswer platform.recording spec).run (state, []) =
      (((launchAnswer platform spec).run state).1, ((launchAnswer platform spec).run state).2,
        [.launch spec.toLaunch ((launchAnswer platform spec).run state).1]) :=
  rfl

/-- A call that has launched its child is finished with a result that reflects what happened to it. -/
theorem exists_requests_of_launched (platform : Platform σ) (spec : CommandSpec) (state : σ)
    (steps : Nat) {child : Pid} {started : σ} {lastResort : Duration}
    (valid : spec.validate = .ok ())
    (launched : (launchAnswer platform spec).run state = (.ok child, started))
    (sum : spec.timeout.add? killGrace = some lastResort) :
    ∃ result last later,
      (executeFor steps platform spec).run state = (.finished result, last) ∧
      (executeFor steps platform.recording spec).run (state, []) =
        (.finished result, last, .launch spec.toLaunch (.ok child) :: later) ∧
      (∀ r ∈ later, r.isLaunch = false) ∧ Reflects child later result ∧
      ∀ known, Attends platform child known → known.told started = false →
        known.outstanding started + 10 ≤ steps → waited later ≠ none := by
  have answered : (launchAnswer platform.recording spec).run (state, []) =
      (.ok child, started, [.launch spec.toLaunch (.ok child)]) := by
    rw [run_launchAnswer_recording, launched]
  have plain := run_executeFor_of_lastResort steps valid (congrArg Prod.fst launched) sum
  have recorded := run_executeFor_of_lastResort steps valid (congrArg Prod.fst answered) sum
  obtain ⟨s, later, ran, seen, tallies, collected⟩ := exists_requests_of_supervise platform spec steps
    child sum started [.launch spec.toLaunch (.ok child)]
  dsimp only at plain recorded
  rw [launched] at plain
  rw [answered, ran] at recorded
  have recorded : (executeFor steps platform.recording spec).run (state, []) =
      (_, _, [.launch spec.toLaunch (.ok child)] ++ later ++ []) := recorded
  rw [List.append_nil] at recorded
  refine ⟨_, _, later, plain, recorded, tallies.unlaunched, ?_, collected⟩
  rw [seen]
  exact reflects_report tallies _ _

/-- **A call fails before anything runs or not at all, and its status is consistent.**  A call without time is
refused and asks for nothing.  Any other begins by asking for the launch of its command; it is refused, by the
name of the program, exactly if the launch fails, and then asks for nothing more, so that a host is left as it
was.  A call whose child was started is finished, whatever becomes of the child, and its result reflects just
that; on a system that attends to the child, the child has been collected. -/
theorem status_of_requests (platform : Platform σ) (spec : CommandSpec) (state : σ) (steps : Nat)
    (room : spec.timeout.add? killGrace ≠ none) :
    ∃ execution last requests,
      (executeFor steps platform spec).run state = (execution, last) ∧
      (executeFor steps platform.recording spec).run (state, []) = (execution, last, requests) ∧
      (execution = .refused .invalidTimeout ↔ spec.timeout = .zero) ∧
      (spec.timeout = .zero → requests = [] ∧ last = state) ∧
      (spec.timeout ≠ .zero → ∃ answer started later,
        (launchAnswer platform spec).run state = (answer, started) ∧
        requests = .launch spec.toLaunch answer :: later ∧ (∀ r ∈ later, r.isLaunch = false) ∧
        (∀ cause, execution = .refused (.launch spec.program cause) ↔ answer = .error cause) ∧
        (∀ cause, answer = .error cause → later = [] ∧ last = started) ∧
        ∀ child, answer = .ok child → ∃ result, execution = .finished result ∧
          Reflects child later result ∧
          ∀ known, Attends platform child known → known.told started = false →
            known.outstanding started + 10 ≤ steps → waited later ≠ none) ∧
      (∀ world cause, spec.timeout ≠ .zero → (Host.World.launch spec.toLaunch world).1 = .error cause →
        (executeFor steps Host.platform spec).run world =
          (.refused (.launch spec.program cause), world)) := by
  have onHost (world : Host.World) (cause : OsError) (time : spec.timeout ≠ .zero)
      (failed : (Host.World.launch spec.toLaunch world).1 = .error cause) :
      (executeFor steps Host.platform spec).run world =
        (.refused (.launch spec.program cause), world) := by
    have answered : ((launchAnswer Host.platform spec).run world).1 = .error cause := failed
    have refused := run_executeFor_of_launchAnswer_error steps
      (CommandSpec.validate_eq_ok_iff.mpr time) answered
    exact refused.trans (congrArg _ (Host.World.launch_eq_of_error failed))
  by_cases zero : spec.timeout = .zero
  · refine ⟨_, _, _, run_executeFor_of_zero platform zero, run_executeFor_of_zero platform.recording zero,
      iff_of_true rfl zero, fun _ => ⟨rfl, rfl⟩, fun time => absurd zero time, onHost⟩
  · have valid := CommandSpec.validate_eq_ok_iff.mpr zero
    obtain ⟨lastResort, sum⟩ := Option.ne_none_iff_exists'.mp room
    obtain ⟨⟨answer, started⟩, launched⟩ : ∃ r, (launchAnswer platform spec).run state = r := ⟨_, rfl⟩
    cases answer with
    | error cause =>
        have plain := run_executeFor_of_launchAnswer_error steps valid
          (congrArg Prod.fst launched)
        have answered : (launchAnswer platform.recording spec).run (state, []) =
            (.error cause, started, [.launch spec.toLaunch (.error cause)]) := by
          rw [run_launchAnswer_recording, launched]
        have recorded := run_executeFor_of_launchAnswer_error steps valid
          (congrArg Prod.fst answered)
        rw [launched] at plain
        rw [answered] at recorded
        refine ⟨_, _, _, plain, recorded, iff_of_false nofun zero, fun time => absurd time zero,
          fun _ => ⟨_, _, [], launched, rfl, nofun, fun other => ?_, fun _ _ => ⟨rfl, rfl⟩, nofun⟩, onHost⟩
        simp
    | ok child =>
        obtain ⟨result, last, later, plain, recorded, unlaunched, reflects, collected⟩ :=
          exists_requests_of_launched platform spec state steps valid launched sum
        refine ⟨_, _, _, plain, recorded, iff_of_false nofun zero, fun time => absurd time zero,
          fun _ => ⟨_, _, later, launched, rfl, unlaunched, fun cause => iff_of_false nofun nofun, nofun,
            ?_⟩, onHost⟩
        rintro child ⟨⟩
        exact ⟨result, rfl, reflects, collected⟩

end

/-! ## Two children that take too long -/

/-- A system that plays out a timeline and shows whatever comes next to those who wait without a limit.  Its child
can be killed or not. -/
def theatre (mortal : Bool) : Platform Moment where
  __ := stage
  await _ limit m := match limit, m.due? with
    | some limit, _ => m.look limit
    | none, some (_, news, next) => (news, next)
    | none, none => (.quiet, m)
  kill target := if mortal then stage.kill target else pure (.error .notPermitted)

/-- What is known of the child there.  Its end is outstanding until it has been told, and counts as told if it never
comes and no kill can bring it. -/
def known (mortal : Bool) : Knowledge Moment where
  outstanding m := m.upcoming.length + (!m.told).toNat
  told m := m.told || (!mortal && m.ending.isNone)
  killed m := !mortal || m.ending.isSome

/-- What is due is outstanding no more when it has been shown. -/
theorem Moment.brings_of_due? {m next : Moment} {time : Nat} {news : News} {mortal : Bool} {child : Pid}
    {limit : Option Nat} (due : m.due? = some (time, news, next)) :
    (known mortal).Brings (theatre mortal) child limit m next news := by
  have exited (time : Nat) (alive : m.exit?.isSome = true) :
      (known mortal).Brings (theatre mortal) child limit m { m with now := time, told := true } .exited := by
    obtain ⟨_, exit⟩ := Option.isSome_iff_exists.mp alive
    have untold := (exit?_eq_some_iff.mp exit).1
    refine ⟨?_, id⟩
    simp [known, untold]
  have emission (time : Nat) {first : Nat × Emission} {rest : Emissions}
      (upcoming : m.upcoming = first :: rest) :
      (known mortal).Brings (theatre mortal) child limit m { m with now := time, upcoming := rest }
        first.2.news := by
    have fewer : rest.length + (!m.told).toNat < m.upcoming.length + (!m.told).toNat := by
      rw [upcoming, List.length_cons]
      omega
    cases first.2 <;> exact ⟨fewer, rfl, id⟩
  unfold due? at due
  split at due
  · cases due
  · next exit alive silent =>
    cases due
    exact exited _ (by simp [alive])
  · next gone upcoming =>
    cases due
    exact emission _ upcoming
  · next alive upcoming =>
    split at due
    · cases due
      exact exited _ (by simp [alive])
    · cases due
      exact emission _ upcoming

/-- A wait with a limit may bring nothing, and then lasts up to it. -/
theorem Moment.brings_quiet (m : Moment) (mortal : Bool) (child : Pid) (limit : Nat) :
    (known mortal).Brings (theatre mortal) child (some limit) m { m with now := max m.now limit } .quiet := by
  refine ⟨⟨rfl, rfl, id⟩, fun unlimited => (by cases unlimited), ?_⟩
  rintro _ ⟨⟩
  exact Nat.le_max_right _ _

/-- When nothing is due, the end has been told, or there is none unless the child is killed. -/
theorem Moment.brings_quiet_of_due? {m : Moment} (mortal : Bool) (due : m.due? = none) :
    (known mortal).Brings (theatre mortal) 2 none m m .quiet := by
  refine ⟨⟨rfl, rfl, id⟩, fun _ => ?_, fun _ limited => (by cases limited)⟩
  have gone := (Moment.due?_eq_none due).1
  cases told : m.told with
  | true => exact Or.inl (by simp [known, told])
  | false =>
      have endless : m.ending = none := by simpa [Moment.exit?, told] using gone
      cases mortal with
      | false => exact Or.inl (by simp [known, endless])
      | true => exact Or.inr ⟨by decide, by simp [known, endless]⟩

/-- A killed child has an end. -/
theorem Moment.isSome_ending_killed (m : Moment) : m.killed.ending.isSome = true := by
  unfold Moment.killed
  split
  · next ended =>
    unfold Moment.hasEnded at ended
    cases ending : m.ending <;> simp_all
  · rfl

/-- A kill brings no news by itself. -/
theorem Moment.same_killed (m : Moment) : (known true).Same m m.killed := by
  unfold Moment.killed
  split
  · exact ⟨rfl, rfl, id⟩
  · exact ⟨rfl, rfl, fun _ => rfl⟩

/-- A system attends to its child, whether the child can be killed or not. -/
theorem attends_theatre (mortal : Bool) : Attends (theatre mortal) 2 (known mortal) where
  clock _ := ⟨rfl, rfl, id⟩
  collect m := by
    have still : (((theatre mortal).collect 2).run m).2 = m := by
      simp only [theatre, stage, StateT.run]
      split <;> rfl
    rw [still]
    exact ⟨rfl, rfl, id⟩
  kill target m := by
    cases mortal with
    | false => exact ⟨rfl, rfl, id⟩
    | true =>
        have after : (((theatre true).kill target).run m).2 = m ∨
            (((theatre true).kill target).run m).2 = m.killed := by
          simp only [theatre, stage, StateT.run, if_true]
          split
          · exact Or.inr rfl
          · exact Or.inl rfl
        rcases after with same | killed
        · rw [same]
          exact ⟨rfl, rfl, id⟩
        · rw [killed]
          exact m.same_killed
  killsChild m := by
    cases mortal with
    | false => rfl
    | true => exact m.isSome_ending_killed
  await limit m := by
    have look : ((theatre mortal).await 2 limit).run m = match limit, m.due? with
        | some limit, _ => m.look limit
        | none, some (_, news, next) => (news, next)
        | none, none => (.quiet, m) := rfl
    rw [look]
    cases due : m.due? with
    | none =>
        cases limit with
        | none => exact Moment.brings_quiet_of_due? mortal due
        | some limit =>
            simp only [Moment.look, due]
            exact m.brings_quiet mortal 2 limit
    | some next =>
        cases limit with
        | none => exact Moment.brings_of_due? due
        | some limit =>
            simp only [Moment.look, due]
            split
            · exact Moment.brings_of_due? due
            · exact m.brings_quiet mortal 2 limit

/-- A child that takes three seconds. -/
def slow : Timeline where
  ending := some (3000000000, .code 0)
  emissions := [(3000000000, .ended .stdout), (3000000000, .ended .stderr)]
  ordered := by simp [Emissions.InOrder]
  closed := by simp [Emission.ends, Emission.stream]

/-- A child that never ends by itself. -/
def endless : Timeline where
  ending := none
  emissions := [(3000000000, .ended .stdout), (3000000000, .ended .stderr)]
  ordered := by simp [Emissions.InOrder]
  closed := by simp [Emission.ends, Emission.stream]

/-- Their command, which has a second. -/
def slowSpec : CommandSpec := { command := "sleep 3", timeout := .ofSecs 1 }

/-- The watchdog fires in both calls, so neither is a success.  A child that resists its kill ends by itself with
code 0: the call has an exit code and is complete.  A child that ends by its kill alone has a signal instead. -/
theorem status_of_slow :
    (∃ result last later,
      (executeFor 13 (theatre false) slowSpec).run slow.begin = (.finished result, last) ∧
      (executeFor 13 (theatre false).recording slowSpec).run (slow.begin, []) =
        (.finished result, last, .launch slowSpec.toLaunch (.ok 2) :: later) ∧
      waited later ≠ none ∧ result.status.exitCode = some 0 ∧ result.status.signal = none ∧
      result.status.complete = true ∧ result.status.timedOut = true ∧ result.isSuccess = false) ∧
    ∃ result last later,
      (executeFor 13 (theatre true) slowSpec).run endless.begin = (.finished result, last) ∧
      (executeFor 13 (theatre true).recording slowSpec).run (endless.begin, []) =
        (.finished result, last, .launch slowSpec.toLaunch (.ok 2) :: later) ∧
      waited later ≠ none ∧ result.status.exitCode = none ∧ result.status.signal = some 9 ∧
      result.status.complete = false ∧ result.status.timedOut = true ∧ result.isSuccess = false := by
  have call (mortal : Bool) (timeline : Timeline) (status : ExitStatus)
      (untold : (known mortal).told timeline.begin = false)
      (few : (known mortal).outstanding timeline.begin + 10 ≤ 13)
      (record : ((executeFor 13 (theatre mortal).recording slowSpec).run (timeline.begin, [])).2.2 =
        [.launch slowSpec.toLaunch (.ok 2), .kill 2, .collect 2 (.ok status)]) :
      ∃ result last later,
        (executeFor 13 (theatre mortal) slowSpec).run timeline.begin = (.finished result, last) ∧
        (executeFor 13 (theatre mortal).recording slowSpec).run (timeline.begin, []) =
          (.finished result, last, .launch slowSpec.toLaunch (.ok 2) :: later) ∧
        waited later ≠ none ∧ result.status.exitCode = status.code? ∧
        result.status.signal = status.signal? ∧ result.status.complete = status.code?.isSome ∧
        result.status.timedOut = true ∧ result.isSuccess = false := by
    obtain ⟨execution, last, requests, plain, recorded, -, -, started, -⟩ :=
      status_of_requests (theatre mortal) slowSpec timeline.begin 13 (by decide)
    obtain ⟨answer, begun, later, launched, rfl, -, -, -, finished⟩ := started (by decide)
    obtain ⟨rfl, rfl⟩ : .ok 2 = answer ∧ timeline.begin = begun := Prod.mk.inj launched
    obtain ⟨result, rfl, reflects, collected⟩ := finished 2 rfl
    rw [recorded] at record
    obtain rfl : later = [.kill 2, .collect 2 (.ok status)] := (List.cons.inj record).2
    obtain ⟨exitCode, signal⟩ := reflects.collected status rfl
    have timedOut : result.status.timedOut = true :=
      (reflects.timedOut (by decide)).mpr ⟨.kill 2, by simp, rfl⟩
    refine ⟨result, last, _, plain, recorded, ?_, exitCode, signal, ?_, timedOut, ?_⟩
    · exact collected (known mortal) (attends_theatre mortal) untold few
    · rw [Bool.eq_iff_iff, reflects.complete, exitCode, Option.isSome_iff_ne_none]
    · rw [Bool.eq_false_iff, Ne, reflects.success, timedOut]
      simp
  exact ⟨call false slow (.code 0) rfl (by decide) rfl, call true endless (.signal 9) rfl (by decide) rfl⟩

end Overseer
