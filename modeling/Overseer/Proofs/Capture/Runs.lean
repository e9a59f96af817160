import Overseer.Proofs.Capture.LaneRuns

/-!
# Runs of the capture

A run of the capture is a list of actions of which each is possible when its turn comes; any such
list counts, so a statement about all runs is a statement about every schedule of the readers and the
drain.  A run of the capture is a run of each of its lanes (`lane_run`), with the actions of the other
stream left out (`steps`).

What the lanes do not know is how far the drain is: the drain leaves its main loop only for a reason
(`LeavesForAReason`), and what it has done with its channels by then is known (`closed_of_left`).
-/

namespace Overseer.Capture

/-- What an action is for the lane of a stream. -/
def Action.step? (s : Stream) : Action → Option LaneStep
  | .read t bytes => if t = s then some (.read bytes) else none
  | .readEnd t => if t = s then some .readEnd else none
  | .send t => if t = s then some .send else none
  | .receive t => if t = s then some .receive else none
  | .hangUp t => if t = s then some .hangUp else none
  | .cancel | .leave | .sweepEnd _ => none

/-- The steps of one lane in a list of actions. -/
def steps (s : Stream) (actions : List Action) : List LaneStep := actions.filterMap (·.step? s)

theorem steps_append (s : Stream) (front back : List Action) :
    steps s (front ++ back) = steps s front ++ steps s back :=
  List.filterMap_append ..

/-- The bytes that the reader of a stream receives in a list of actions. -/
def bytesRead (s : Stream) (actions : List Action) : ByteArray := Lane.bytesRead (steps s actions)

theorem bytesRead_append (s : Stream) (front back : List Action) :
    bytesRead s (front ++ back) = bytesRead s front ++ bytesRead s back := by
  rw [bytesRead, steps_append, Lane.bytesRead_append, bytesRead, bytesRead]

theorem bytesRead_eq_empty {s : Stream} {actions : List Action}
    (silent : ∀ a ∈ actions, bytesRead s [a] = .empty) : bytesRead s actions = .empty := by
  induction actions with
  | nil => rfl
  | cons a actions ih =>
      obtain ⟨first, others⟩ := List.forall_mem_cons.mp silent
      rw [← List.singleton_append, bytesRead_append, first, ih others, ByteArray.append_empty]

/-- The lines that the reader of a stream puts into its channel, in a run from the start. -/
def linesSent (s : Stream) (actions : List Action) : List String :=
  ({} : Lane).sent (steps s actions)

/-- The lines that the drain takes out of the channel of a stream, in a run from the start. -/
def linesTaken (s : Stream) (actions : List Action) : List String :=
  ({} : Lane).taken (steps s actions)

namespace Pipeline

/-- Takes actions one after the other, if each is possible when its turn comes. -/
def run? (p : Pipeline) : List Action → Option Pipeline
  | [] => some p
  | a :: actions => (p.act? a).bind fun q => q.run? actions

theorem act?_eq_some_iff {p q : Pipeline} {a : Action} :
    p.act? a = some q ↔ p.enabled a = true ∧ p.perform a = q := by
  simp [act?]

theorem run?_cons_eq_some_iff {p q : Pipeline} {a : Action} {actions : List Action} :
    p.run? (a :: actions) = some q ↔
      p.enabled a = true ∧ (p.perform a).run? actions = some q := by
  simp only [run?, Option.bind_eq_some_iff, act?_eq_some_iff]
  constructor
  · rintro ⟨next, ⟨ok, rfl⟩, rest⟩
    exact ⟨ok, rest⟩
  · rintro ⟨ok, rest⟩
    exact ⟨_, ⟨ok, rfl⟩, rest⟩

theorem run?_append (p : Pipeline) (front back : List Action) :
    p.run? (front ++ back) = (p.run? front).bind fun m => m.run? back := by
  induction front generalizing p with
  | nil => rfl
  | cons a front ih =>
      rw [List.cons_append, run?, run?, Option.bind_assoc]
      exact congrArg _ (funext fun next => ih next)

theorem run?_append_eq_some_iff {p q : Pipeline} {front back : List Action} :
    p.run? (front ++ back) = some q ↔ ∃ m, p.run? front = some m ∧ m.run? back = some q := by
  rw [run?_append, Option.bind_eq_some_iff]

/-! ## A run is a run of each lane -/

@[simp] theorem lane_updateLane (p : Pipeline) (s t : Stream) (f : Lane → Lane) :
    (p.updateLane t f).lane s = if t = s then f (p.lane s) else p.lane s := by
  cases s <;> cases t <;> rfl

@[simp] theorem phase_updateLane (p : Pipeline) (t : Stream) (f : Lane → Lane) :
    (p.updateLane t f).phase = p.phase := by
  cases t <;> rfl

@[simp] theorem cancelled_updateLane (p : Pipeline) (t : Stream) (f : Lane → Lane) :
    (p.updateLane t f).cancelled = p.cancelled := by
  cases t <;> rfl

/-- An action changes a lane only by the step that it is for that lane. -/
theorem lane_perform (p : Pipeline) (a : Action) (s : Stream) :
    (p.perform a).lane s = match a.step? s with
      | some step => (p.lane s).perform step
      | none => p.lane s := by
  cases a with
  | read t bytes => by_cases same : t = s <;> simp [perform, Action.step?, Lane.perform, same]
  | readEnd t => by_cases same : t = s <;> simp [perform, Action.step?, Lane.perform, same]
  | send t => by_cases same : t = s <;> simp [perform, Action.step?, Lane.perform, same]
  | receive t => by_cases same : t = s <;> simp [perform, Action.step?, Lane.perform, same]
  | hangUp t => by_cases same : t = s <;> simp [perform, Action.step?, Lane.perform, same]
  | cancel => cases s <;> rfl
  | leave => cases s <;> rfl
  | sweepEnd t => cases s <;> rfl

/-- An action that is possible is a step that its lane allows. -/
theorem allows_of_enabled {p : Pipeline} {a : Action} {s : Stream} {step : LaneStep}
    (ok : p.enabled a = true) (mine : a.step? s = some step) : (p.lane s).Allows step := by
  cases a with
  | read t bytes =>
      obtain ⟨rfl, rfl⟩ : t = s ∧ LaneStep.read bytes = step := by simpa [Action.step?] using mine
      simp only [enabled, Lane.awaitsBytes, Bool.and_eq_true, Bool.not_eq_true',
        List.isEmpty_iff] at ok
      exact ok.1
  | readEnd t =>
      obtain ⟨rfl, rfl⟩ : t = s ∧ LaneStep.readEnd = step := by simpa [Action.step?] using mine
      simpa [enabled, Lane.awaitsBytes, Lane.Allows] using ok
  | send t =>
      obtain ⟨rfl, rfl⟩ : t = s ∧ LaneStep.send = step := by simpa [Action.step?] using mine
      simp only [enabled, Bool.and_eq_true, Bool.not_eq_true', List.isEmpty_eq_false_iff,
        decide_eq_true_eq] at ok
      exact ⟨ok.1.2, ok.2⟩
  | receive t =>
      obtain ⟨rfl, rfl⟩ : t = s ∧ LaneStep.receive = step := by simpa [Action.step?] using mine
      simp only [enabled, Bool.and_eq_true, Bool.not_eq_true', List.isEmpty_eq_false_iff] at ok
      exact ok.2
  | hangUp t =>
      obtain ⟨rfl, rfl⟩ : t = s ∧ LaneStep.hangUp = step := by simpa [Action.step?] using mine
      simp only [enabled, Bool.and_eq_true, List.isEmpty_iff] at ok
      exact ⟨ok.1.2, ok.2⟩
  | cancel => simp [Action.step?] at mine
  | leave => simp [Action.step?] at mine
  | sweepEnd t => simp [Action.step?] at mine

/-- **A run of the capture is a run of each lane.** -/
theorem lane_run {p q : Pipeline} {actions : List Action} (s : Stream)
    (ran : p.run? actions = some q) : Lane.Run (p.lane s) (steps s actions) (q.lane s) := by
  induction actions generalizing p with
  | nil =>
      obtain rfl : p = q := by simpa [run?] using ran
      exact .nil _
  | cons a actions ih =>
      obtain ⟨ok, rest⟩ := run?_cons_eq_some_iff.mp ran
      have later := ih rest
      rw [lane_perform] at later
      cases mine : a.step? s with
      | none => simpa [steps, mine] using later
      | some step =>
          simp only [mine] at later
          simpa [steps, mine] using Lane.Run.cons (allows_of_enabled ok mine) later

/-! ## How far the drain is -/

/-- The drain is behind the sweep of a channel. -/
def swept (p : Pipeline) : Stream → Bool
  | .stdout => p.phase == .sweeping .stderr || p.phase == .done
  | .stderr => p.phase == .done

theorem swept_of_finished {p : Pipeline} (done : p.finished = true) (s : Stream) :
    p.swept s = true := by
  cases s <;> simp_all [finished, swept]

/-- The drain is in its main loop, or it had a reason to leave it. -/
def LeavesForAReason (p : Pipeline) : Prop := p.phase ≠ .merging → p.mayLeave = true

/-- A drain that may leave its main loop may leave it ever after. -/
theorem mayLeave_perform {p : Pipeline} (a : Action) (may : p.mayLeave = true) :
    (p.perform a).mayLeave = true := by
  cases a with
  | cancel => rfl
  | leave => exact may
  | sweepEnd t => exact may
  | read t bytes => cases t <;> exact may
  | readEnd t => cases t <;> exact may
  | send t => cases t <;> simpa [mayLeave, perform, updateLane, Lane.listening_send] using may
  | receive t =>
      cases t <;> simpa [mayLeave, perform, updateLane, Lane.listening_receive] using may
  | hangUp t =>
      have reason : p.cancelled = true ∨ p.stdout.listening = false ∧ p.stderr.listening = false := by
        simpa [mayLeave] using may
      cases t with
      | stdout =>
          simpa [mayLeave, perform, updateLane, Lane.hangUp] using reason.imp_right And.right
      | stderr =>
          simpa [mayLeave, perform, updateLane, Lane.hangUp] using reason.imp_right And.left

theorem LeavesForAReason.step {p : Pipeline} {a : Action} (sound : p.LeavesForAReason)
    (ok : p.enabled a = true) : (p.perform a).LeavesForAReason := by
  intro left
  refine mayLeave_perform a ?_
  by_cases inside : p.phase = .merging
  · -- From within the main loop only the step out of it leads out, and that asks for the reason.
    cases a with
    | leave => exact (Bool.and_eq_true_iff.mp ok).2
    | sweepEnd t => simp [enabled, inside] at ok
    | _ => simp_all [perform]
  · exact sound inside

theorem LeavesForAReason.run {p q : Pipeline} {actions : List Action}
    (ran : p.run? actions = some q) (sound : p.LeavesForAReason) : q.LeavesForAReason := by
  induction actions generalizing p with
  | nil =>
      obtain rfl : p = q := by simpa [run?] using ran
      exact sound
  | cons a actions ih =>
      obtain ⟨ok, rest⟩ := run?_cons_eq_some_iff.mp ran
      exact ih rest (sound.step ok)

/-- A cancellation cancels, for good, and nothing else does. -/
theorem cancelled_iff {p q : Pipeline} {actions : List Action} (ran : p.run? actions = some q) :
    q.cancelled = true ↔ p.cancelled = true ∨ .cancel ∈ actions := by
  induction actions generalizing p with
  | nil =>
      obtain rfl : p = q := by simpa [run?] using ran
      simp
  | cons a actions ih =>
      obtain ⟨-, rest⟩ := run?_cons_eq_some_iff.mp ran
      rw [ih rest]
      cases a with
      | cancel => simp [perform]
      | _ => simp [perform]

/-- The start of every run. -/
theorem leavesForAReason_start : LeavesForAReason {} := fun left => absurd rfl left

/-- A channel whose drain has left without being cancelled is closed and empty. -/
theorem closed_of_left {p : Pipeline} {actions : List Action} (ran : run? {} actions = some p)
    (left : p.phase ≠ .merging) (uncut : p.cancelled = false) (s : Stream) :
    (p.lane s).closed = true ∧ (p.lane s).queue = [] := by
  have may := leavesForAReason_start.run ran left
  have deaf : p.stdout.listening = false ∧ p.stderr.listening = false := by
    simpa [mayLeave, uncut] using may
  have start : Lane.MissesNothing ((({} : Pipeline)).lane s) := by
    cases s <;> exact fun listening => absurd listening (by decide)
  have sound := start.run (lane_run s ran)
  cases s with
  | stdout => exact sound deaf.1
  | stderr => exact sound deaf.2

end Pipeline

end Overseer.Capture
