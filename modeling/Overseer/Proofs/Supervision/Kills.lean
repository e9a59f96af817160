import Overseer.Supervision.Control

/-!
# When a child is killed by its number

The number of a child is its own until the child has been collected.  The waiter collects the child,
and the watchdog kills it; the one tells the other by an announcement, and nothing else keeps them
apart.

`kill_of_run` says what this is worth.  Whatever the order of the steps, there is one kill by number at
most, none before the deadline and none when the watchdog has noticed the announcement.  But the
deadline may pass behind the collection and before that, and then the kill goes to a number that may
be anybody's (`kill_behind_collection`).  In the run in which every party acts as soon as it can, it
does not (`not_isCollected_of_fire`).
-/

namespace Overseer.Control

open Overseer.Os

/-- Takes steps, each at its time, if each is possible when its turn comes. -/
def run? (c : Control) : List (Nat × Event) → Option Control
  | [] => some c
  | (now, event) :: events => (c.react? now event).bind fun next => next.1.run? events

theorem run?_cons_eq_some_iff {c d : Control} {now : Nat} {event : Event}
    {events : List (Nat × Event)} :
    c.run? ((now, event) :: events) = some d ↔
      c.enabled now event = true ∧ (c.perform now event).run? events = some d := by
  by_cases ok : c.enabled now event = true <;> simp [run?, react?, ok]

theorem run?_append (c : Control) (front back : List (Nat × Event)) :
    c.run? (front ++ back) = (c.run? front).bind fun m => m.run? back := by
  induction front generalizing c with
  | nil => rfl
  | cons step front ih =>
      rw [List.cons_append, run?, run?, Option.bind_assoc]
      exact congrArg _ (funext fun next => ih next.1)

/-- The event is the collection of the child. -/
def collects : Event → Bool
  | .collect _ => true
  | _ => false

/-- The event is one of the two ways in which the watchdog ends. -/
def endsWatch : Event → Bool
  | .fire | .standDown => true
  | _ => false

theorem isCollected_perform {c : Control} {now : Nat} {event : Event}
    (ok : c.enabled now event = true) :
    (c.perform now event).isCollected = (c.isCollected || collects event) := by
  cases event with
  | exit => cases child : c.child <;> simp_all [enabled, perform, isCollected, collects]
  | collect outcome => simp [perform, isCollected, collects]
  | _ => simp [perform, isCollected, collects]

/-- A child has been collected when it was collected before or an event of the run collects it. -/
theorem isCollected_run {c d : Control} {events : List (Nat × Event)}
    (ran : c.run? events = some d) :
    d.isCollected = (c.isCollected || events.any fun step => collects step.2) := by
  induction events generalizing c with
  | nil =>
      obtain rfl : c = d := by simpa [run?] using ran
      simp
  | cons step events ih =>
      obtain ⟨ok, rest⟩ := run?_cons_eq_some_iff.mp ran
      rw [ih rest, isCollected_perform ok, List.any_cons, Bool.or_assoc]

theorem deadline_run {c d : Control} {events : List (Nat × Event)}
    (ran : c.run? events = some d) : d.deadline = c.deadline := by
  induction events generalizing c with
  | nil =>
      obtain rfl : c = d := by simpa [run?] using ran
      rfl
  | cons step events ih =>
      obtain ⟨-, rest⟩ := run?_cons_eq_some_iff.mp ran
      rw [ih rest]
      cases step.2 <;> rfl

/-- The watchdog is armed as long as none of the events ends the watch. -/
theorem armed_run {c d : Control} {events : List (Nat × Event)} (ran : c.run? events = some d) :
    d.watchdog = .armed ↔ c.watchdog = .armed ∧ ∀ step ∈ events, endsWatch step.2 = false := by
  induction events generalizing c with
  | nil =>
      obtain rfl : c = d := by simpa [run?] using ran
      simp
  | cons step events ih =>
      obtain ⟨now, event⟩ := step
      obtain ⟨-, rest⟩ := run?_cons_eq_some_iff.mp ran
      rw [ih rest, List.forall_mem_cons, ← and_assoc]
      refine and_congr_left fun _ => ?_
      cases event <;> simp [perform, endsWatch]

/-- A watchdog that has ended its watch does not do so again. -/
theorem quiet_of_not_armed {c d : Control} {events : List (Nat × Event)}
    (ran : c.run? events = some d) (ended : c.watchdog ≠ .armed) :
    ∀ step ∈ events, endsWatch step.2 = false := by
  induction events generalizing c with
  | nil => simp
  | cons step events ih =>
      obtain ⟨now, event⟩ := step
      obtain ⟨ok, rest⟩ := run?_cons_eq_some_iff.mp ran
      -- Both steps that end the watch ask for an armed watchdog, and none arms it again.
      have still : endsWatch event = false := by
        cases event <;> simp_all [enabled, endsWatch]
      have later : (c.perform now event).watchdog ≠ .armed := by
        cases event <;> simp_all [perform]
      exact List.forall_mem_cons.mpr ⟨still, ih rest later⟩

/-- When every party acts as soon as it can, no kill goes to a collected child. -/
theorem not_isCollected_of_fire {c : Control} {now : Nat} (next : c.next? now = some .fire) :
    c.isCollected = false := by
  cases announces : c.enabled now .announce with
  | true => simp [next?, announces] at next
  | false =>
      cases standsDown : c.enabled now .standDown with
      | true => simp [next?, announces, standsDown] at next
      | false =>
          have fires : c.enabled now .fire = true := List.find?_some next
          -- The watchdog is armed, so nothing has been announced, and so there is nothing to be.
          simp_all [enabled]

/-- **The kill of a run.**  It comes at the deadline or behind it, it is the only one, and no run has
both a kill and a watchdog that stands down.  It meets a collected child exactly when the collection
comes before it, and then some party has not yet done what it could. -/
theorem kill_of_run {c d : Control} {front back : List (Nat × Event)} {now : Nat}
    (begins : c.isCollected = false) (ran : c.run? (front ++ (now, .fire) :: back) = some d) :
    c.deadline ≤ now ∧ (∀ step ∈ front ++ back, endsWatch step.2 = false) ∧
      ∃ m, c.run? front = some m ∧
        (m.isCollected = true ↔ ∃ step ∈ front, collects step.2 = true) ∧
        (m.next? now = some .fire → m.isCollected = false) := by
  rw [run?_append, Option.bind_eq_some_iff] at ran
  obtain ⟨m, toKill, rest⟩ := ran
  obtain ⟨ok, behind⟩ := run?_cons_eq_some_iff.mp rest
  obtain ⟨armed, late⟩ : m.watchdog = .armed ∧ m.deadline ≤ now := by
    simpa [enabled] using ok
  refine ⟨?_, ?_, m, toKill, ?_, not_isCollected_of_fire⟩
  · rwa [deadline_run toKill] at late
  · rw [List.forall_mem_append]
    refine ⟨((armed_run toKill).mp armed).2, quiet_of_not_armed behind ?_⟩
    simp [perform]
  · rw [isCollected_run toKill, begins, Bool.false_or, List.any_eq_true]

/-- The parties at the start of a command with a deadline at 2. -/
def twoTicks : Control := { deadline := 2, lastResort := 7, detached := false }

/-- What follows the kill of `twoTicks`: the child ends and is collected. -/
def killedChild : List (Nat × Event) := [(3, .exit), (3, .collect (.ok (.signal 9)))]

/-- A child that runs into its deadline is killed before it is collected, and nothing ends the watch
behind that. -/
theorem kill_of_overrun :
    twoTicks.isCollected = false ∧
      (∃ d, twoTicks.run? ([] ++ (2, .fire) :: killedChild) = some d ∧ d.isCollected = true) ∧
      twoTicks.deadline ≤ 2 ∧ (∀ step ∈ killedChild, endsWatch step.2 = false) ∧
      ∃ m, twoTicks.run? [] = some m ∧ m.isCollected = false := by
  obtain ⟨late, only, m, toKill, collected, -⟩ :=
    @kill_of_run twoTicks _ [] killedChild 2 rfl rfl
  refine ⟨rfl, ⟨_, rfl, rfl⟩, late, only, m, toKill, ?_⟩
  simpa using collected

/-- A child that has ended and been collected, and a deadline that passes before this has been
announced. -/
def lateDeadline : List (Nat × Event) := [(1, .exit), (1, .collect (.ok (.code 0)))]

/-- **A kill may go to a number that has been given back.**  It is not true that the watchdog kills no
child that has been collected: the deadline may pass behind the collection and before the
announcement. -/
theorem kill_behind_collection : ¬∀ (c m : Control) (events : List (Nat × Event)) (now : Nat),
    c.isCollected = false → c.run? events = some m → m.enabled now .fire = true →
    m.isCollected = false := by
  intro own
  exact absurd (own twoTicks _ lateDeadline 2 rfl rfl rfl) (by decide)

end Overseer.Control
