import Overseer.Proofs.Supervision.Programs

/-!
# Kills that are noted

A program says nothing of the kills that it asks the system for.  To see them, it is run on a system that
notes them, with the time on its clock (`Platform.noting`), and does otherwise what the system does that it
stands for.

A program that is made of the operations of a platform cannot see the notes: on the system that notes it
gives the same result and leaves the same state (`Shadows`).
-/

namespace Overseer

open Overseer.Os Overseer.Processes

/-- A kill that the system was asked for. -/
structure KillNote where
  /-- the time on the clock -/
  time : Nat
  /-- the argument of the system call -/
  target : Int
  deriving DecidableEq, Repr

section

variable {σ α β : Type}

/-- Does something that is not noted. -/
def besideNotes (program : StateM σ α) : StateM (σ × List KillNote) α := fun (state, notes) =>
  let (a, state) := program.run state
  (a, state, notes)

/-- A system that does what the given one does, and notes its kills. -/
def Platform.noting (platform : Platform σ) : Platform (σ × List KillNote) where
  clock := besideNotes platform.clock
  timeOfDay := besideNotes platform.timeOfDay
  launch launch := besideNotes (platform.launch launch)
  await child limit := besideNotes (platform.await child limit)
  collect child := besideNotes (platform.collect child)
  kill target := fun (state, notes) =>
    let (answer, after) := (platform.kill target).run state
    (answer, after, notes ++ [⟨(platform.clock.run state).1, target⟩])
  hangUp child stream := besideNotes (platform.hangUp child stream)
  release child := besideNotes (platform.release child)

/-- A program on a system that notes its kills does what another one does on the system itself; it only
adds to the notes. -/
def Shadows (noted : StateM (σ × List KillNote) α) (plain : StateM σ α) : Prop :=
  ∀ state notes, ∃ more,
    noted.run (state, notes) = ((plain.run state).1, (plain.run state).2, notes ++ more)

theorem shadows_pure (a : α) : Shadows (pure a : StateM (σ × List KillNote) α) (pure a) := by
  intro state notes
  exact ⟨[], by rw [List.append_nil]; rfl⟩

theorem shadows_besideNotes (program : StateM σ α) : Shadows (besideNotes program) program := by
  intro state notes
  exact ⟨[], by rw [List.append_nil]; rfl⟩

theorem shadows_bind {noted : StateM (σ × List KillNote) α} {plain : StateM σ α}
    {next : α → StateM (σ × List KillNote) β} {next' : α → StateM σ β} (start : Shadows noted plain)
    (rest : ∀ a, Shadows (next a) (next' a)) : Shadows (noted >>= next) (plain >>= next') := by
  intro state notes
  obtain ⟨first, ran⟩ := start state notes
  obtain ⟨later, went⟩ := rest (plain.run state).1 (plain.run state).2 (notes ++ first)
  refine ⟨first ++ later, ?_⟩
  rw [run_bind, ran, run_bind, ← List.append_assoc]
  exact went

theorem run_besideNotes {program : StateM σ α} {state after : σ} {a : α}
    (ran : program.run state = (a, after)) (notes : List KillNote) :
    (besideNotes program).run (state, notes) = (a, after, notes) := by
  have noted : (besideNotes program).run (state, notes) =
      ((program.run state).1, (program.run state).2, notes) := rfl
  rw [noted, ran]

/-- A launch is not noted. -/
theorem Platform.Starts.noting {platform : Platform σ} {launch : Launch} {state after : σ} {start begun : Nat}
    {child : Pid} (starts : platform.Starts launch state start child begun after)
    (notes : List KillNote) :
    platform.noting.Starts launch (state, notes) start child begun (after, notes) := by
  obtain ⟨before, behind, clock, launched, counted⟩ := starts
  exact ⟨_, _, run_besideNotes clock notes, run_besideNotes launched notes, run_besideNotes counted notes⟩

variable (platform : Platform σ)

theorem shadows_kill (target : Int) : Shadows (platform.noting.kill target) (platform.kill target) :=
  fun _ _ => ⟨_, rfl⟩

theorem shadows_forceKillGroup (pgid : Pid) :
    Shadows (forceKillGroup platform.noting.kill pgid) (forceKillGroup platform.kill pgid) := by
  unfold forceKillGroup sendKill
  cases killGroupArgument? pgid with
  | none => exact shadows_pure _
  | some target =>
      refine shadows_bind (shadows_kill platform target) fun answer => ?_
      cases answer <;> exact shadows_pure _

/-- The kill of a group is noted once, with the time on the clock before it. -/
theorem run_forceKillGroup_noting {pgid : Pid} (ok : 0 < pgid.toNat ∧ pgid.toNat ≤ maxPid) (state : σ)
    (notes : List KillNote) :
    ((forceKillGroup platform.noting.kill pgid).run (state, notes)).2.2 =
      notes ++ [⟨(platform.clock.run state).1, -(pgid.toNat : Int)⟩] := by
  have argument : killGroupArgument? pgid = some (-(pgid.toNat : Int)) := by
    rw [killGroupArgument?, checkedPid?_eq_some_iff.mpr ⟨ok.1, ok.2, rfl⟩, Option.map_some]
  unfold forceKillGroup sendKill
  rw [argument]
  dsimp only
  rw [run_bind]
  cases ((platform.noting.kill (-(pgid.toNat : Int))).run (state, notes)).1 <;> rfl

end

end Overseer
