import Overseer.Proofs.Capture.Settling
import Overseer.Proofs.Supervision.Kills
import Overseer.Proofs.Supervision.Steps

/-!
# Supervisions come to their end

A supervision waits for its child and for what the child's streams still hold, so it ends if the system keeps
to its part: there are only so many news of the child, a wait that brings none lasts up to its limit, and when
the child has been killed by its number, a wait without a limit brings its end.  `Attends` says this of a system,
so that a child may end by itself or by that kill alone; `finished_superviseFor` is the conclusion.

The argument is a count.  Every news is one less to come, every step of the parties is one less to be taken
(`pending_perform_lt`), and behind a wait that brings nothing there is such a step
(`next?_isSome_of_wakeAt`).
-/

namespace Overseer

open Overseer.Capture Overseer.Os Overseer.Processes

/-! ## The parties -/

namespace Control

variable {c : Control} {event : Event} {now time : Nat}

/-- **What the parties know of each other** at every moment of a supervision. -/
structure Orderly (c : Control) : Prop where
  collected : c.announced = true → c.isCollected = true
  announced : c.watchdog = .stoodDown → c.announced = true
  drained : c.drainUntil.isSome = true → c.announced = true
  cut : c.cut = true → c.drainUntil.isSome = true
  inOrder : c.deadline ≤ c.lastResort

theorem enabled_of_next? (next : c.next? now = some event) : c.enabled now event = true :=
  List.find?_some next

theorem Orderly.perform (orderly : c.Orderly) (ok : c.enabled now event = true) :
    (c.perform now event).Orderly := by
  obtain ⟨collected, announced, drained, cut, inOrder⟩ := orderly
  cases event with
  | exit =>
      -- A child that ends has not been collected, so its end has not been announced.
      have running : c.isCollected = false := by
        cases child : c.child <;> simp_all [enabled, isCollected]
      have silent : c.announced = false := by
        cases told : c.announced with
        | false => rfl
        | true => simp [collected told] at running
      exact ⟨by simp [Control.perform, silent], announced, drained, cut, inOrder⟩
  | collect outcome => exact ⟨fun _ => rfl, announced, drained, cut, inOrder⟩
  | announce =>
      exact ⟨fun _ => (Bool.and_eq_true_iff.mp ok).1, fun _ => rfl, fun _ => rfl, cut, inOrder⟩
  | fire => exact ⟨collected, fun stood => (by cases stood), drained, cut, inOrder⟩
  | standDown => exact ⟨collected, fun _ => (Bool.and_eq_true_iff.mp ok).2, drained, cut, inOrder⟩
  | useHandle => exact ⟨collected, announced, drained, cut, inOrder⟩
  | beginDrain =>
      have told : c.announced = true := (Bool.and_eq_true_iff.mp (Bool.and_eq_true_iff.mp ok).1).1
      exact ⟨collected, announced, fun _ => told, fun _ => rfl, inOrder⟩
  | cutDrain =>
      have begun : c.drainUntil.isSome = true := by
        cases until_ : c.drainUntil <;> simp_all [enabled]
      exact ⟨collected, announced, drained, fun _ => begun, inOrder⟩

/-- The child may be collected at any time. -/
theorem Orderly.collect (orderly : c.Orderly) (outcome : Except OsError ExitStatus) :
    ({ c with child := .collected outcome } : Control).Orderly :=
  { orderly with collected := fun _ => rfl }

/-- How many steps the parties can take at most, apart from the collection of the child. -/
def pending (c : Control) : Nat :=
  (!c.announced).toNat + (c.watchdog == .armed).toNat + (!c.handleUsed).toNat +
    (!c.drainUntil.isSome).toNat + (!c.cut).toNat

/-- **Every step that the parties take next is one less to be taken.** -/
theorem pending_perform_lt (next : c.next? now = some event) :
    (c.perform now event).pending < c.pending := by
  have ok := enabled_of_next? next
  have member := List.mem_of_find?_eq_some next
  simp only [List.mem_cons, List.not_mem_nil, or_false] at member
  rcases member with rfl | rfl | rfl | rfl | rfl | rfl
  · have silent : c.announced = false := by simp_all [enabled]
    simp [pending, perform, silent]
  · have armed : c.watchdog = .armed := by simp_all [enabled]
    simp [pending, perform, armed]
  · have armed : c.watchdog = .armed := by simp_all [enabled]
    simp [pending, perform, armed]
  · have unused : c.handleUsed = false := by simp_all [enabled]
    simp [pending, perform, unused]
  · have undrained : c.drainUntil = none := by simp_all [enabled]
    simp [pending, perform, undrained]
  · have uncut : c.cut = false := by
      cases until_ : c.drainUntil <;> simp_all [enabled]
    simp [pending, perform, uncut]

/-- The parties wait for something that one of them does then. -/
theorem next?_isSome_of_wakeAt (wake : c.wakeAt = some time) (late : time ≤ now) :
    (c.next? now).isSome = true := by
  have found (event : Event) (ok : c.enabled now event = true)
      (member : event ∈ [.announce, .standDown, .fire, .useHandle, .beginDrain, .cutDrain]) :
      (c.next? now).isSome = true :=
    List.find?_isSome.mpr ⟨event, member, ok⟩
  by_cases fires : c.enabled now .fire = true
  · exact found .fire fires (by simp)
  by_cases resorts : c.enabled now .useHandle = true
  · exact found .useHandle resorts (by simp)
  by_cases cuts : c.enabled now .cutDrain = true
  · exact found .cutDrain cuts (by simp)
  -- Each of the three times that the wait may be for is still to come.
  exfalso
  have early : ∀ limit, c.wakeAt = some limit → now < limit := by
    intro limit wake
    unfold wakeAt at wake
    simp only [enabled] at fires resorts cuts
    cases until_ : c.drainUntil <;> cases armed : c.watchdog <;> cases unused : c.handleUsed <;>
      cases collected : c.isCollected <;> cases uncut : c.cut <;>
      simp_all [earlier?] <;> omega
  exact absurd (early time wake) (by omega)

/-- Parties that wait without a limit have the child collected, or have killed it through its handle. -/
theorem isCollected_or_handleUsed_of_wakeAt_eq_none (wake : c.wakeAt = none) :
    c.isCollected = true ∨ c.handleUsed = true := by
  cases collected : c.isCollected with
  | true => exact Or.inl rfl
  | false =>
      cases used : c.handleUsed with
      | true => exact Or.inr rfl
      | false =>
          -- Parties that have done neither wait for the last resort at most.
          unfold wakeAt at wake
          cases armed : c.watchdog <;> cases cut : c.cut <;> cases until_ : c.drainUntil <;>
            simp_all [earlier?]

/-- Parties that wait for nothing have cut the capture short, unless the child has yet to be collected. -/
theorem cut_of_wakeAt_eq_none (collected : c.isCollected = true)
    (idle : c.next? now = none) (wake : c.wakeAt = none) : c.cut = true := by
  have idle := List.find?_eq_none.mp idle
  have announced : c.announced = true := by
    simpa [enabled, collected] using idle .announce (by simp)
  have answered : c.watchdog ≠ .armed := by
    simpa [enabled, announced] using idle .standDown (by simp)
  have drains : c.drainUntil ≠ none := by
    simpa [enabled, announced, answered] using idle .beginDrain (by simp)
  obtain ⟨limit, until_⟩ := Option.ne_none_iff_exists'.mp drains
  cases uncut : c.cut with
  | true => rfl
  | false => simp [wakeAt, collected, answered, until_, uncut, earlier?] at wake

end Control

/-! ## The capture -/

namespace Capture.Pipeline

variable {p : Pipeline}

/-- **A capture at rest that is cut short has finished.** -/
theorem finished_cut_of_idle (idle : p.next? = none) : p.cut.finished = true := by
  cases cancelled : p.cancelled with
  | true =>
      rw [cut, if_neg (by simp [enabled, cancelled])]
      exact finished_of_cancelled idle cancelled
  | false =>
      rw [cut, if_pos (by simp [enabled, cancelled])]
      obtain ⟨more, settled, -⟩ := exists_run_settleFor (p.perform .cancel).weight (p.perform .cancel)
      exact finished_of_cancelled (next?_settle _) ((cancelled_iff settled).mpr (Or.inl rfl))

/-- What comes in from outside leaves the capture at rest. -/
theorem next?_settled (idle : p.next? = none) (a : Action) :
    (if p.enabled a then (p.perform a).settle else p).next? = none := by
  split
  · exact next?_settle _
  · exact idle

end Capture.Pipeline

/-! ## The system -/

section

variable {σ : Type}

/-- What a system knows of its child: how many news are outstanding, whether the end of the child has been told,
and whether the child has been killed. -/
structure Knowledge (σ : Type) where
  /-- so many news are outstanding -/
  outstanding : σ → Nat
  /-- the end of the child has been told -/
  told : σ → Bool
  /-- the child has been killed by its number -/
  killed : σ → Bool

namespace Knowledge

variable (known : Knowledge σ)

/-- The same news are to come, the same has been told of the child, and what was killed stays so. -/
def Same (before after : σ) : Prop :=
  known.outstanding after = known.outstanding before ∧ known.told after = known.told before ∧
    (known.killed before = true → known.killed after = true)

instance : IsPreorder σ known.Same where
  refl _ := ⟨rfl, rfl, id⟩
  trans _ _ _ first second :=
    ⟨second.1.trans first.1, second.2.1.trans first.2.1, second.2.2 ∘ first.2.2⟩

/-- The child has a number by which it can be killed, and has not been. -/
def Spared (child : Pid) (state : σ) : Prop :=
  (0 < child.toNat ∧ child.toNat ≤ maxPid) ∧ known.killed state = false

/-- What a wait may bring: one of the news that are outstanding, which may be the end of the child, or
nothing up to the limit.  A wait without a limit may bring nothing as long as the child has not been killed, and
when its end has been told. -/
def Brings (platform : Platform σ) (child : Pid) (limit : Option Nat) (before after : σ) : News → Prop
  | .exited => known.outstanding after < known.outstanding before ∧
      (known.killed before = true → known.killed after = true)
  | .quiet => known.Same before after ∧
      (limit = none → known.told before = true ∨ known.Spared child before) ∧
      ∀ time ∈ limit, time ≤ (platform.clock.run after).1
  | .output _ _ | .ended _ => known.outstanding after < known.outstanding before ∧
      known.told after = known.told before ∧ (known.killed before = true → known.killed after = true)

end Knowledge

/-- **A system attends to a child**: in each of its states only so many news are outstanding, and it is known
whether the end of the child has been told and whether the child has been killed. -/
structure Attends (platform : Platform σ) (child : Pid) (known : Knowledge σ) : Prop where
  clock : Leads known.Same platform.clock
  collect : Leads known.Same (platform.collect child)
  kill : ∀ target, Leads known.Same (platform.kill target)
  killsChild : ∀ state, known.killed ((platform.kill child.toNat).run state).2 = true
  await : ∀ limit state, known.Brings platform child limit state
    ((platform.await child limit).run state).2 ((platform.await child limit).run state).1

/-! ## The supervision -/

variable {platform : Platform σ} {child : Pid} {known : Knowledge σ}
variable {s : Supervision} {state : σ} {event : Event} {n : Nat}

/-- A supervision in progress: the capture rests, and its parties know what the system has told and what has
become of the kill through the handle. -/
structure InProgress (known : Knowledge σ) (child : Pid) (s : Supervision) (state : σ) : Prop where
  orderly : s.control.Orderly
  rests : s.capture.next? = none
  cut : s.control.cut = true → s.capture.finished = true
  collected : known.told state = true → s.control.isCollected = true
  resorted : s.control.handleUsed = true → ¬known.Spared child state

/-- A supervision whose capture has been cut short is over. -/
theorem InProgress.finished_of_cut (progress : InProgress known child s state) (cut : s.control.cut = true) :
    s.finished = true := by
  simp [Supervision.finished, progress.orderly.cut cut, progress.cut cut]

/-- A child that is spared has been spared before. -/
theorem Knowledge.Spared.of_kept {before after : σ} (spared : known.Spared child after)
    (kept : known.killed before = true → known.killed after = true) : known.Spared child before := by
  obtain ⟨valid, alive⟩ := spared
  refine ⟨valid, Bool.eq_false_iff.mpr fun killed => ?_⟩
  simp [kept killed] at alive

theorem InProgress.of_same {after : σ} (progress : InProgress known child s state)
    (same : known.Same state after) : InProgress known child s after :=
  { progress with
    collected := fun told => progress.collected (same.2.1 ▸ told)
    resorted := fun used spared => progress.resorted used (spared.of_kept same.2.2) }

/-- A supervision that is over has the outcome of collecting the child. -/
theorem Control.Orderly.outcome?_isSome (orderly : s.control.Orderly) (done : s.finished = true) :
    s.control.outcome?.isSome = true := by
  have begun : s.control.drainUntil.isSome = true := (Bool.and_eq_true_iff.mp done).1
  have collected := orderly.collected (orderly.drained begun)
  unfold Control.isCollected at collected
  unfold Control.outcome?
  cases child : s.control.child <;> simp_all

theorem leads_effect_run {R : σ → σ → Prop} [IsPreorder σ R]
    (kills : ∀ target, Leads R (platform.kill target)) (effect : Effect) (capture : Pipeline) :
    Leads R (effect.run platform child capture) := by
  cases effect with
  | cutCapture => exact leads_pure _
  | killChild => exact leads_bind (leads_sendKill kills child _) fun _ => leads_pure _
  | killGroup => exact leads_bind (leads_sendKill kills child _) fun _ => leads_pure _
  | killHandle => exact leads_bind (leads_sendKill kills child _) fun _ => leads_pure _

/-- The capture behind a step of the parties. -/
def Supervision.captureBehind (s : Supervision) (event : Event) : Pipeline :=
  if s.control.effect? event = some .cutCapture then s.capture.cut else s.capture

/-- A kill through the handle reaches a child with a number. -/
theorem not_spared_of_killHandle (attends : Attends platform child known) (capture : Pipeline) (state : σ) :
    ¬known.Spared child ((Effect.killHandle.run platform child capture).run state).2 := by
  rintro ⟨valid, alive⟩
  have number : killArgument? child = some (child.toNat : Int) :=
    checkedPid?_eq_some_iff.mpr ⟨valid.1, valid.2, rfl⟩
  have killed : ((Effect.killHandle.run platform child capture).run state).2 =
      ((platform.kill child.toNat).run state).2 := by
    rw [← state_sendKill platform.kill child child.toNat state, ← number]
    rfl
  rw [killed, attends.killsChild] at alive
  cases alive

theorem InProgress.perform {now : Nat} {after : σ} (progress : InProgress known child s state)
    (next : s.control.next? now = some event) (same : known.Same state after)
    (resorts : event = .useHandle → ¬known.Spared child after) :
    InProgress known child ⟨s.control.perform now event, s.captureBehind event⟩ after := by
  have ok := Control.enabled_of_next? next
  refine ⟨progress.orderly.perform ok, ?_, fun cut => ?_, fun told => ?_, fun used => ?_⟩
  · dsimp only [Supervision.captureBehind]
    split
    · exact Pipeline.next?_settled progress.rests .cancel
    · exact progress.rests
  · dsimp only [Supervision.captureBehind]
    split
    · exact Pipeline.finished_cut_of_idle progress.rests
    · next uncut =>
      refine progress.cut ?_
      cases event <;> simp_all [Control.perform, Control.effect?]
  · rw [Control.isCollected_perform ok, progress.collected (same.2.1 ▸ told), Bool.true_or]
  · by_cases resort : event = .useHandle
    · exact resorts resort
    · have used : s.control.handleUsed = true := by
        cases event <;> simp_all [Control.perform]
      exact fun spared => progress.resorted used (spared.of_kept same.2.2)

/-- A step of the parties brings no news. -/
theorem exists_superviseFor_eq_of_next? (attends : Attends platform child known)
    (open_ : s.finished = false)
    (next : s.control.next? (platform.clock.run state).1 = some event) :
    ∃ after, known.Same state after ∧ (event = .useHandle → ¬known.Spared child after) ∧
      (superviseFor platform child (n + 1) s).run state = (superviseFor platform child n
        ⟨s.control.perform (platform.clock.run state).1 event, s.captureBehind event⟩).run after := by
  have looked := attends.clock state
  dsimp only [Supervision.captureBehind]
  cases does : s.control.effect? event with
  | none =>
      refine ⟨_, looked, fun resort => ?_, run_superviseFor_of_silent open_ next does⟩
      simp [resort, Control.effect?] at does
  | some effect =>
      have done := (leads_effect_run attends.kill effect s.capture :
        Leads _ (effect.run platform child s.capture)) (platform.clock.run state).2
      refine ⟨_, trans_of known.Same looked done, fun resort => ?_, ?_⟩
      · subst resort
        obtain rfl : .killHandle = effect := by simpa [Control.effect?] using does
        exact not_spared_of_killHandle attends s.capture _
      · rw [run_superviseFor_of_effect open_ next does]
        cases effect <;> rfl

/-- News of the child leave a supervision in progress. -/
theorem InProgress.receive {before after : σ} {limit : Option Nat} {news : News}
    (attends : Attends platform child known) (progress : InProgress known child s before)
    (uncut : s.control.cut = false)
    (brings : known.Brings platform child limit before after news) (loud : news ≠ .quiet) :
    let received := (s.receive platform child news).run after
    InProgress known child received.1 received.2 ∧
      known.outstanding received.2 < known.outstanding before ∧
      received.1.control.pending = s.control.pending := by
  have captures (a : Action) (same : known.told after = known.told before)
      (kept : known.killed before = true → known.killed after = true) :
      InProgress known child
        ⟨s.control, if s.capture.enabled a then (s.capture.perform a).settle else s.capture⟩ after :=
    ⟨progress.orderly, Pipeline.next?_settled progress.rests a, fun cut => by simp [uncut] at cut,
      fun told => progress.collected (same ▸ told),
      fun used spared => progress.resorted used (spared.of_kept kept)⟩
  cases news with
  | quiet => exact absurd rfl loud
  | output stream bytes =>
      obtain ⟨fewer, same, kept⟩ := brings
      exact ⟨captures (.read stream bytes) same kept, fewer, rfl⟩
  | ended stream =>
      obtain ⟨fewer, same, kept⟩ := brings
      exact ⟨captures (.readEnd stream) same kept, fewer, rfl⟩
  | exited =>
      obtain ⟨fewer, kept⟩ := brings
      have behind := trans_of known.Same (attends.clock after)
        (attends.collect (platform.clock.run after).2)
      refine ⟨⟨progress.orderly.collect _, progress.rests, progress.cut, fun _ => rfl,
        fun used spared => progress.resorted used ((spared.of_kept behind.2.2).of_kept kept)⟩, ?_, rfl⟩
      exact Nat.lt_of_le_of_lt (Nat.le_of_eq behind.1) fewer

/-- Behind a wait that brought nothing, one of the parties does something. -/
theorem InProgress.next?_isSome_of_quiet {after : σ} (progress : InProgress known child s state)
    (open_ : s.finished = false) {now : Nat} (idle : s.control.next? now = none)
    (brings : known.Brings platform child s.control.wakeAt state after .quiet) :
    (s.control.next? (platform.clock.run after).1).isSome = true := by
  obtain ⟨-, silent, late⟩ := brings
  cases wake : s.control.wakeAt with
  | some time => exact Control.next?_isSome_of_wakeAt wake (late time wake)
  | none =>
      -- The child has been collected: either its end was told, or the last resort has not been used.
      have collected : s.control.isCollected = true := by
        rcases silent wake with told | spared
        · exact progress.collected told
        · exact (Control.isCollected_or_handleUsed_of_wakeAt_eq_none wake).resolve_right
            fun used => progress.resorted used spared
      have cut := Control.cut_of_wakeAt_eq_none collected idle wake
      simp [progress.finished_of_cut cut] at open_

/-- **A supervision comes to its end** if the system attends to the child. -/
theorem finished_superviseFor (attends : Attends platform child known)
    (progress : InProgress known child s state)
    (enough : known.outstanding state + 2 * s.control.pending ≤ n) :
    ((superviseFor platform child n s).run state).1.finished = true := by
  induction n using Nat.strongRecOn generalizing s state with
  | ind n ih =>
      cases open_ : s.finished with
      | true =>
          rw [superviseFor_of_finished open_]
          exact open_
      | false =>
          have uncut : s.control.cut = false := by
            refine Bool.eq_false_iff.mpr fun cut => ?_
            simp [progress.finished_of_cut cut] at open_
          obtain ⟨k, rfl⟩ : ∃ k, n = k + 2 := by
            refine Nat.exists_eq_add_of_le' (Nat.le_trans ?_ enough)
            simp only [Control.pending, uncut, Bool.not_false, Bool.toNat_true]
            omega
          cases next : s.control.next? (platform.clock.run state).1 with
          | some event =>
              obtain ⟨after, same, resorts, ran⟩ :=
                exists_superviseFor_eq_of_next? attends open_ next (n := k + 1)
              have fewer := Control.pending_perform_lt next
              rw [ran]
              refine ih (k + 1) (by omega) (progress.perform next same resorts) ?_
              rw [same.1]
              dsimp only
              omega
          | none =>
              have waits := progress.of_same (attends.clock state)
              have looked := (attends.clock state).1
              obtain ⟨⟨news, after⟩, waited⟩ :
                  ∃ r, (platform.await child s.control.wakeAt).run (platform.clock.run state).2 = r := ⟨_, rfl⟩
              have brings := attends.await s.control.wakeAt (platform.clock.run state).2
              rw [waited] at brings
              dsimp only at brings
              rw [run_superviseFor_of_idle open_ next waited]
              by_cases quiet : news = .quiet
              · -- The step that follows a wait without news pays for the wait.
                subst quiet
                have acts := waits.next?_isSome_of_quiet open_ next brings
                obtain ⟨event, next⟩ := Option.isSome_iff_exists.mp acts
                obtain ⟨later, same, resorts, ran⟩ :=
                  exists_superviseFor_eq_of_next? attends open_ next (n := k)
                have same := trans_of known.Same brings.1 same
                have fewer := Control.pending_perform_lt next
                refine (congrArg (fun r => r.1.finished) ran).trans ?_
                refine ih k (by omega) (waits.perform next same resorts) ?_
                rw [same.1, looked]
                dsimp only
                omega
              · obtain ⟨goesOn, fewer, pending⟩ := waits.receive attends uncut brings quiet
                exact ih (k + 1) (by omega) goesOn (by omega)

end

end Overseer
