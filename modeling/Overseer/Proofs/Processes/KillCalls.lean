import Overseer.Processes.Kill
import Overseer.Proofs.Supervision.Programs

/-!
# Whom the kill primitives address

The system call that sends a signal gives four meanings to its first argument, and the primitives give it
one number with either sign.  To see what they ask of the system, they are run on a call that notes its
arguments (`notingTargets`) and answers like the call that it stands for, whatever that answers.

One range check guards both signs.  It keeps `0` from the system, and whatever lies outside the signed
32 bits of the argument, so that neither the number nor its opposite wraps around (`toInt_neg_toInt32`).
But it lets `1` pass, whose opposite does not stand for the group `1`: it stands for every process
(`ofArgument_neg_natCast`).  `addressees_of_kills` says exactly whom the primitives address, and
`not_only_named_groups` that a group is not all that they address.

## Main definitions

* `notingTargets` — a system call that notes its arguments
* `Addressable` — the numbers that pass the range check
-/

namespace Overseer.Processes

open Overseer.Os

/-! ## The numbers that pass -/

/-- A number that the primitives hand to the system, with one sign or the other. -/
def Addressable (pid : Pid) : Prop := 0 < pid.toNat ∧ pid.toNat ≤ maxPid

section

variable {pid : Pid}

theorem checkedPid?_of_addressable (ok : Addressable pid) : checkedPid? pid = some (pid.toNat : Int) :=
  if_pos ok

theorem checkedPid?_of_not_addressable (bad : ¬ Addressable pid) : checkedPid? pid = none :=
  if_neg bad

/-- The number of an addressable process is the same in the signed 32 bits of the argument. -/
theorem toInt_toInt32 (ok : Addressable pid) : pid.toInt32.toInt = pid.toNat := by
  have small : 2 * pid.toBitVec.toNat < 2 ^ 32 := by
    have bound : pid.toBitVec.toNat ≤ 2147483647 := ok.2
    omega
  exact BitVec.toInt_eq_toNat_of_lt small

/-- The opposite number is the opposite one there, too. -/
theorem toInt_neg_toInt32 (ok : Addressable pid) : (-pid.toInt32).toInt = -(pid.toNat : Int) := by
  rw [Int32.toInt_neg, toInt_toInt32 ok]
  have bound : pid.toNat ≤ 2147483647 := ok.2
  exact Int.bmod_eq_of_le (by omega) (by omega)

end

/-! ## Whom a number stands for -/

theorem ofArgument_natCast {n : Nat} (positive : 0 < n) : Addressee.ofArgument n = .process n := by
  rw [Addressee.ofArgument, if_pos (Int.natCast_pos.mpr positive), Int.toNat_natCast]

/-- The opposite of a number stands for the group with that number, unless the number is `1`. -/
theorem ofArgument_neg_natCast {n : Nat} (positive : 0 < n) :
    Addressee.ofArgument (-(n : Int)) = if n = 1 then .everyone else .group n := by
  have negative : ¬ (0 : Int) < -(n : Int) := by omega
  have nonzero : -(n : Int) ≠ 0 := by omega
  rw [Addressee.ofArgument, if_neg negative, if_neg nonzero]
  by_cases one : n = 1
  · subst one
    rfl
  · have other : -(n : Int) ≠ -1 := by omega
    rw [if_neg other, if_neg one, Int.natAbs_neg, Int.natAbs_natCast]

/-! ## The calls -/

section

variable {σ : Type}

/-- A system call that answers like the given one and notes its arguments. -/
def notingTargets (kill : Int → StateM σ (Except Errno Unit)) (target : Int) :
    StateM (σ × List Int) (Except Errno Unit) :=
  fun (state, targets) =>
    let (answer, state) := (kill target).run state
    (answer, state, targets ++ [target])

variable (kill : Int → StateM σ (Except Errno Unit)) (pid : Pid) (state : σ)

/-- A primitive that is noted does what it does otherwise, and calls the system once if there is an
argument for its target. -/
theorem run_sendKill_notingTargets (argument : Option Int) (targets : List Int) :
    (sendKill (notingTargets kill) pid argument).run (state, targets) =
      (((sendKill kill pid argument).run state).1, ((sendKill kill pid argument).run state).2,
        targets ++ argument.toList) := by
  cases argument with
  | none =>
      rw [Option.toList_none, List.append_nil]
      rfl
  | some target =>
      have noted : (notingTargets kill target).run (state, targets) =
          (((kill target).run state).1, ((kill target).run state).2, targets ++ [target]) := rfl
      -- What the primitive makes of the answer leaves the notes alone.
      rw [sendKill, sendKill, run_bind, run_bind, noted]
      cases ((kill target).run state).1 <;> rfl

/-- **Whom the kill primitives address.**  Whatever the system answers, a number that is `0`, or too large
for the signed 32 bits of the argument, is reported as not found without a call.

For every other number there is one call: with the number itself, which stands for that process, or with
its opposite, which stands for the group with that number if it is not `1`, and for every process if it
is.  Neither the number nor its opposite wraps around, and noting the calls changes nothing else. -/
theorem addressees_of_kills :
    (¬ Addressable pid →
      (forceKill (notingTargets kill) pid).run (state, []) = (.error (.notFound pid), state, []) ∧
      (forceKillGroup (notingTargets kill) pid).run (state, []) =
        (.error (.notFound pid), state, [])) ∧
    (Addressable pid →
      (∃ answer after, (forceKill kill pid).run state = (answer, after) ∧
        (forceKill (notingTargets kill) pid).run (state, []) =
          (answer, after, [(pid.toNat : Int)])) ∧
      Addressee.ofArgument pid.toNat = .process pid.toNat ∧
      (∃ answer after, (forceKillGroup kill pid).run state = (answer, after) ∧
        (forceKillGroup (notingTargets kill) pid).run (state, []) =
          (answer, after, [-(pid.toNat : Int)])) ∧
      Addressee.ofArgument (-(pid.toNat : Int)) =
        (if pid = 1 then .everyone else .group pid.toNat) ∧
      pid.toInt32.toInt = pid.toNat ∧ (-pid.toInt32).toInt = -(pid.toNat : Int)) := by
  constructor
  · intro bad
    have none := checkedPid?_of_not_addressable bad
    rw [forceKill, forceKillGroup, killArgument?, killGroupArgument?, none]
    exact ⟨rfl, rfl⟩
  · intro ok
    have some := checkedPid?_of_addressable ok
    have one : pid.toNat = 1 ↔ pid = 1 := UInt32.toNat_inj (b := 1)
    refine ⟨⟨_, _, rfl, ?_⟩, ofArgument_natCast ok.1, ⟨_, _, rfl, ?_⟩, ?_, toInt_toInt32 ok,
      toInt_neg_toInt32 ok⟩
    · rw [forceKill, run_sendKill_notingTargets, killArgument?, some]
      rfl
    · rw [forceKillGroup, run_sendKill_notingTargets, killGroupArgument?, some]
      rfl
    · rw [ofArgument_neg_natCast ok.1]
      simp only [one]

end

/-- A system in which every process may be killed. -/
def obeying (_ : Int) : StateM Unit (Except Errno Unit) := pure (.ok ())

/-- Not every number of a group leads to a call that stands for that group alone: `1` leads to one that
stands for every process. -/
theorem not_only_named_groups :
    ¬ ∀ (pgid : Pid) (target : Int),
      target ∈ ((forceKillGroup (notingTargets obeying) pgid).run ((), [])).2.2 →
        Addressee.ofArgument target = .group pgid.toNat := by
  intro all
  have called : (-1 : Int) ∈ ((forceKillGroup (notingTargets obeying) 1).run ((), [])).2.2 := by
    decide
  exact absurd (all 1 (-1) called) (by decide)

end Overseer.Processes
