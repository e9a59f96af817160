import Mathlib.Order.Defs.Unbundled
import Overseer.Processes.Kill
import Overseer.Supervision.Platform

/-!
# What programs do to a system

A supervisor is a program over the state of a system, put together from the operations of a platform.
This module has what is needed to speak of such a program without looking into it:

* `Leads` — the state behind a program stands in a relation to the state before it; what holds of
  every operation (`Platform.Leads`) holds of the programs that are made of them;
* `Platform.Starts` — a launch that gives a child, with the times on the clock before and behind it;
* `Alike` — two programs do the same to the state and give related results.

`Platform.inert` is a system in which nothing ever happens; systems for examples are made from it.
-/

namespace Overseer

open Overseer.Os Overseer.Processes

section

variable {σ α β γ δ : Type}

theorem run_bind (first : StateM σ α) (next : α → StateM σ β) (state : σ) :
    (first >>= next).run state = (next (first.run state).1).run (first.run state).2 :=
  rfl

/-! ## Relations between states -/

/-- Whatever state a program starts in, the state behind it stands in a relation to that one. -/
def Leads (R : σ → σ → Prop) (program : StateM σ α) : Prop :=
  ∀ state, R state (program.run state).2

variable {R : σ → σ → Prop} [IsPreorder σ R]

theorem leads_pure (a : α) : Leads R (pure a : StateM σ α) := fun state => refl_of R state

theorem leads_bind {first : StateM σ α} {next : α → StateM σ β} (start : Leads R first)
    (rest : ∀ a, Leads R (next a)) : Leads R (first >>= next) := by
  intro state
  rw [run_bind]
  exact trans_of R (start state) (rest _ _)

/-- Every operation of a platform leads from a state to a related one. -/
structure Platform.Leads (platform : Platform σ) (R : σ → σ → Prop) : Prop where
  clock : Overseer.Leads R platform.clock
  timeOfDay : Overseer.Leads R platform.timeOfDay
  launch : ∀ launch, Overseer.Leads R (platform.launch launch)
  await : ∀ child limit, Overseer.Leads R (platform.await child limit)
  collect : ∀ child, Overseer.Leads R (platform.collect child)
  kill : ∀ target, Overseer.Leads R (platform.kill target)
  hangUp : ∀ child stream, Overseer.Leads R (platform.hangUp child stream)
  release : ∀ child, Overseer.Leads R (platform.release child)

theorem leads_sendKill {kill : Int → StateM σ (Except Errno Unit)}
    (kills : ∀ target, Leads R (kill target)) (pid : Pid) (argument : Option Int) :
    Leads R (sendKill kill pid argument) := by
  cases argument with
  | none => exact leads_pure _
  | some target =>
      refine leads_bind (kills target) fun answer => ?_
      cases answer <;> exact leads_pure _

theorem state_sendKill (kill : Int → StateM σ (Except Errno Unit)) (pid : Pid) (target : Int)
    (state : σ) : ((sendKill kill pid (some target)).run state).2 = ((kill target).run state).2 := by
  rw [sendKill, run_bind]
  cases ((kill target).run state).1 <;> rfl

theorem leads_forceKillGroup {kill : Int → StateM σ (Except Errno Unit)}
    (kills : ∀ target, Leads R (kill target)) (pgid : Pid) : Leads R (forceKillGroup kill pgid) :=
  leads_sendKill kills pgid _

/-! ## Launches -/

/-- **A launch gives a child.**  The clock is read before the launch and again when the child is there; what
has a deadline counts from then on, and the launch itself may take its time. -/
def Platform.Starts (platform : Platform σ) (launch : Launch) (state : σ) (start : Nat) (child : Pid)
    (begun : Nat) (after : σ) : Prop :=
  ∃ before behind, platform.clock.run state = (start, before) ∧
    (platform.launch launch).run before = (.ok child, behind) ∧ platform.clock.run behind = (begun, after)

/-! ## Programs side by side -/

/-- Two programs do the same to the state and give related results. -/
def Alike (S : α → β → Prop) (left : StateM σ α) (right : StateM σ β) : Prop :=
  ∀ state, S (left.run state).1 (right.run state).1 ∧ (left.run state).2 = (right.run state).2

variable {S : α → β → Prop} {T : γ → δ → Prop}

theorem alike_pure {a : α} {b : β} (related : S a b) :
    Alike S (pure a : StateM σ α) (pure b) :=
  fun _ => ⟨related, rfl⟩

theorem alike_bind {left : StateM σ α} {right : StateM σ β} {next : α → StateM σ γ}
    {next' : β → StateM σ δ} (start : Alike S left right)
    (rest : ∀ a b, S a b → Alike T (next a) (next' b)) :
    Alike T (left >>= next) (right >>= next') := by
  intro state
  obtain ⟨related, same⟩ := start state
  rw [run_bind, run_bind, ← same]
  exact rest _ _ related _

/-- Two programs that begin in the same way may be looked at from there on. -/
theorem alike_bind_same (first : StateM σ α) {next : α → StateM σ γ} {next' : α → StateM σ δ}
    (rest : ∀ a, Alike T (next a) (next' a)) : Alike T (first >>= next) (first >>= next') :=
  fun state => rest (first.run state).1 (first.run state).2

end

/-- A system in which no program is found, nothing happens, and the clock stands still. -/
def Platform.inert (σ : Type) : Platform σ where
  clock := pure 0
  timeOfDay := pure default
  launch _ := pure (.error (.ofErrno .noEntry))
  await _ _ := pure .quiet
  collect _ := pure (.error (.ofErrno .noChild))
  kill _ := pure (.error .noProcess)
  hangUp _ _ := pure ()
  release _ := pure ()

end Overseer
