import Overseer.Proofs.Script.Sights

/-!
# Looks at a child

A watch makes so many looks at a child at most, and that bound is no part of what it is for.  `Looks` has no
bound: it is one look after another, each of them made before the deadline and as long as something of the run
is still waited for.  A watch goes on behind such looks as if they had been its own (`Looks.run_watchFor`), so
that within the bound the looks are all there is to say about it.

The bound is out of reach on a system that does not repeat itself (`ShowsNews`).  A look there brings a byte or
the end of a stream, the end of the child, or the deadline, and there are fewer of these than looks to be made
(`Looks.length_lt`).
-/

namespace Overseer.Script

open Overseer.Capture Overseer.Os Overseer.Processes

section

variable {σ : Type}

/-- **Looks at a child before its deadline**, from a state on: what they have shown, and the state behind them.
A look is made as long as something is still waited for, and only before the deadline. -/
inductive Looks (platform : Platform σ) (child : Pid) (deadline : Nat) (first : σ) :
    List Sight → σ → Prop
  /-- no look has been made -/
  | none : Looks platform child deadline first [] first
  /-- one more look has been made -/
  | look {seen : List Sight} {sight : Sight} {now : Nat} {state after next : σ}
      (before : Looks platform child deadline first seen state) (awaited : concluded seen = false)
      (clock : platform.clock.run state = (now, after)) (early : now < deadline)
      (looked : (look platform child deadline seen).run after = (sight, next)) :
      Looks platform child deadline first (seen ++ [sight]) next

variable {platform : Platform σ} {child : Pid} {deadline n : Nat} {first state : σ} {seen : List Sight}

/-! ## The looks of a watch -/

/-- A watch goes on behind looks as if they had been its own. -/
theorem Looks.run_watchFor (looks : Looks platform child deadline first seen state) (n : Nat) :
    (watchFor platform child deadline (seen.length + n) []).run first =
      (watchFor platform child deadline n seen).run state := by
  induction looks generalizing n with
  | none => rw [List.length_nil, Nat.zero_add]
  | @look seen sight now state after next _ awaited clock early looked ih =>
      have count : (seen ++ [sight]).length + n = seen.length + (n + 1) := by
        rw [List.length_append, List.length_singleton, Nat.add_assoc, Nat.add_comm 1 n]
      rw [count, ih, run_watchFor_of_early awaited clock early looked]

/-- A watch whose looks have seen everything stops there. -/
theorem Looks.run_watchFor_of_concluded (looks : Looks platform child deadline first seen state)
    (done : concluded seen = true) (within : seen.length ≤ n) :
    (watchFor platform child deadline n []).run first = (seen, state) := by
  obtain ⟨more, rfl⟩ := Nat.exists_eq_add_of_le within
  rw [looks.run_watchFor]
  cases more with
  | zero => rfl
  | succ more => exact Script.run_watchFor_of_concluded done

/-- A watch whose looks have come to the deadline kills the group of the child. -/
theorem Looks.run_watchFor_of_late {now : Nat} {after : σ}
    (looks : Looks platform child deadline first seen state) (awaited : concluded seen = false)
    (clock : platform.clock.run state = (now, after)) (late : deadline ≤ now)
    (within : seen.length < n) :
    (watchFor platform child deadline n []).run first =
      (seen, ((forceKillGroup platform.kill child).run after).2) := by
  obtain ⟨more, rfl⟩ := Nat.exists_eq_add_of_lt within
  rw [Nat.add_assoc, looks.run_watchFor, Script.run_watchFor_of_late awaited clock late]

/-- From a state on, the looks go on until nothing is waited for any more, the deadline has come, or there
have been so many. -/
theorem exists_looks (platform : Platform σ) (child : Pid) (deadline : Nat) (first : σ) (n : Nat) :
    ∃ seen state, Looks platform child deadline first seen state ∧ seen.length ≤ n ∧
      (seen.length < n → concluded seen = true ∨ deadline ≤ (platform.clock.run state).1) := by
  induction n with
  | zero => exact ⟨[], first, .none, Nat.le_refl _, fun few => absurd few (Nat.not_lt_zero _)⟩
  | succ n ih =>
      obtain ⟨seen, state, looks, within, ended⟩ := ih
      by_cases settled : concluded seen = true ∨ deadline ≤ (platform.clock.run state).1
      · exact ⟨seen, state, looks, Nat.le_succ_of_le within, fun _ => settled⟩
      · obtain ⟨awaited, early⟩ := not_or.mp settled
        have all : seen.length = n := within.eq_of_not_lt fun few => settled (ended few)
        refine ⟨_, _, looks.look (Bool.eq_false_iff.mpr awaited) rfl (Nat.not_le.mp early) rfl, ?_, ?_⟩
        · rw [List.length_append, List.length_singleton, all]
        · intro few
          rw [List.length_append, List.length_singleton, all] at few
          exact absurd few (Nat.lt_irrefl _)

/-- What a watch sees, it sees by looks. -/
theorem exists_looks_of_watchFor (platform : Platform σ) (child : Pid) (deadline n : Nat) (first : σ) :
    ∃ seen state final, Looks platform child deadline first seen state ∧ seen.length ≤ n ∧
      (watchFor platform child deadline n []).run first = (seen, final) := by
  obtain ⟨seen, state, looks, within, stops⟩ := exists_looks platform child deadline first n
  refine ⟨seen, state, ?_⟩
  cases done : concluded seen with
  | true => exact ⟨state, looks, within, looks.run_watchFor_of_concluded done within⟩
  | false =>
      rcases within.eq_or_lt with rfl | few
      · exact ⟨state, looks, within, looks.run_watchFor 0⟩
      · have late := (stops few).resolve_left (by simp [done])
        exact ⟨_, looks, within, looks.run_watchFor_of_late done rfl late few⟩

end

/-! ## How many looks there can be -/

/-- The looks that a stream may still take: one for each byte that there is room for, and one for its
end. -/
def looksAt (s : Stream) (seen : List Sight) : Nat :=
  if streamOver s seen then 0 else maxOutputBytes - (brought s seen).length + 1

section

variable {s : Stream} {seen : List Sight} {sight : Sight}

theorem looksAt_of_silent (s : Stream) (seen : List Sight) (sight : Sight)
    (nothing : sight.bytesOf s = []) (unended : sight.ends s = false) :
    looksAt s (seen ++ [sight]) = looksAt s seen := by
  rw [looksAt, looksAt, streamOver_append_of_silent s seen sight nothing, unended, Bool.or_false,
    brought_append_of_silent s seen sight nothing]

/-- A stream that is still read takes fewer looks when something has come from it. -/
theorem looksAt_append_lt (running : streamOver s seen = false)
    (something : sight.bytesOf s ≠ [] ∨ sight.ends s = true) :
    looksAt s (seen ++ [sight]) < looksAt s seen := by
  have before : looksAt s seen = maxOutputBytes - (brought s seen).length + 1 := by
    rw [looksAt, running]
    rfl
  rw [before, looksAt]
  split
  · exact Nat.succ_pos _
  · next open_ =>
    rcases something with some | ends
    · have more := List.length_pos_iff.mpr some
      have room := ((streamOver_eq_false_iff _ _).mp running).2
      rw [brought_append_of_not_over _ _ _ running, List.length_append]
      omega
    · exact absurd (by simp [streamOver, ends]) open_

/-- A sight is news: bytes or the end of a stream that is still read, or the end of a child that has not been
collected. -/
def Sight.IsNews (seen : List Sight) : Sight → Prop
  | output stream bytes => streamOver stream seen = false ∧ bytes.data.toList ≠ []
  | ended stream => streamOver stream seen = false
  | collected _ => Script.outcome? seen = none
  | nothing => False

/-- The news that may still come. -/
def newsAhead (seen : List Sight) : Nat :=
  looksAt .stdout seen + looksAt .stderr seen + (Script.outcome? seen).isNone.toNat

/-- Something from one stream leaves the other as it was. -/
theorem newsAhead_append_lt_of_stream (silent : ∀ t, t ≠ s → sight.bytesOf t = [] ∧ sight.ends t = false)
    (running : streamOver s seen = false) (something : sight.bytesOf s ≠ [] ∨ sight.ends s = true)
    (uncollected : sight.outcome? = none) : newsAhead (seen ++ [sight]) < newsAhead seen := by
  have fewer := looksAt_append_lt running something
  have same (t : Stream) (other : t ≠ s) : looksAt t (seen ++ [sight]) = looksAt t seen :=
    looksAt_of_silent t seen sight (silent t other).1 (silent t other).2
  simp only [newsAhead, outcome?_append_singleton, uncollected, Option.none_or]
  cases s with
  | stdout =>
      rw [same .stderr (by decide)]
      omega
  | stderr =>
      rw [same .stdout (by decide)]
      omega

/-- Every piece of news is one less to come. -/
theorem newsAhead_append_lt (news : sight.IsNews seen) : newsAhead (seen ++ [sight]) < newsAhead seen := by
  cases sight with
  | output stream bytes =>
      obtain ⟨running, some⟩ := news
      refine newsAhead_append_lt_of_stream (s := stream) (fun t other => ?_) running (Or.inl ?_) rfl
      · exact ⟨if_neg other.symm, rfl⟩
      · rwa [Sight.bytesOf, if_pos rfl]
  | ended stream =>
      refine newsAhead_append_lt_of_stream (s := stream) (fun t other => ?_) news (Or.inr ?_) rfl
      · exact ⟨rfl, by simp [Sight.ends, other.symm]⟩
      · simp [Sight.ends]
  | collected outcome =>
      have silent (t : Stream) := looksAt_of_silent t seen (.collected outcome) rfl rfl
      have collected : Script.outcome? (seen ++ [.collected outcome]) = some outcome := by
        rw [outcome?_append_singleton]
        rfl
      have before : Script.outcome? seen = none := news
      simp only [newsAhead, silent, collected, before, Option.isNone_none, Option.isNone_some,
        Bool.toNat_true, Bool.toNat_false]
      omega
  | nothing => exact news.elim

end

section

variable {σ : Type}

/-- **A system that does not repeat itself** to those who look at a child: every look shows news, or the
deadline has come behind it. -/
def ShowsNews (platform : Platform σ) (child : Pid) (deadline : Nat) (first : σ) : Prop :=
  ∀ seen state sight next, Looks platform child deadline first seen state → concluded seen = false →
    (look platform child deadline seen).run (platform.clock.run state).2 = (sight, next) →
    sight.IsNews seen ∨ deadline ≤ (platform.clock.run next).1

/-- **A watch has looks enough** on a system that does not repeat itself. -/
theorem Looks.length_lt {platform : Platform σ} {child : Pid} {deadline : Nat} {first state : σ}
    {seen : List Sight} (shows_ : ShowsNews platform child deadline first)
    (looks : Looks platform child deadline first seen state) : seen.length < collectBound := by
  -- Only the last look can bring nothing, for the deadline has come behind it.
  have count : seen.length + newsAhead seen ≤ newsAhead [] ∨
      deadline ≤ (platform.clock.run state).1 ∧ seen.length ≤ newsAhead [] + 1 := by
    induction looks with
    | none => exact Or.inl (Nat.le_of_eq (Nat.zero_add _))
    | @look seen sight now state after next before awaited clock early looked ih =>
        have early : ¬deadline ≤ (platform.clock.run state).1 := by
          rw [clock]
          exact Nat.not_le.mpr early
        have ahead := ih.resolve_right fun late => early late.1
        rw [List.length_append, List.length_singleton]
        rcases shows_ seen state sight next before awaited (by rw [clock, looked]) with news | late
        · have fewer := newsAhead_append_lt news
          exact Or.inl (by omega)
        · exact Or.inr ⟨late, by omega⟩
  have few : newsAhead [] + 1 < collectBound := by decide
  omega

end

end Overseer.Script
