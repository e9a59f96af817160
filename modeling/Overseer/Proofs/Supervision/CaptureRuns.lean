import Overseer.Proofs.Capture.Settling
import Overseer.Supervision.Execute

/-!
# The capture of a supervised command is a run

A supervision settles its capture whenever something comes in: bytes, the end of a stream, or the end
of the grace time.  That is one schedule of the readers and the drain among many.  So what holds for
the texts of all runs of the capture holds for the texts of every execution (`execute_texts`).
-/

namespace Overseer

open Overseer.Capture Overseer.Os Overseer.Processes

namespace Capture.Pipeline

/-- A capture comes from another by a run. -/
def Reaches (p q : Pipeline) : Prop := ∃ actions, p.run? actions = some q

theorem Reaches.refl (p : Pipeline) : p.Reaches p := ⟨[], rfl⟩

theorem Reaches.trans {p q r : Pipeline} (first : p.Reaches q) (second : q.Reaches r) :
    p.Reaches r := by
  obtain ⟨front, toMiddle⟩ := first
  obtain ⟨back, toEnd⟩ := second
  exact ⟨front ++ back, run?_append_eq_some_iff.mpr ⟨q, toMiddle, toEnd⟩⟩

theorem reaches_perform {p : Pipeline} {a : Action} (ok : p.enabled a = true) :
    p.Reaches (p.perform a) :=
  ⟨[a], run?_cons_eq_some_iff.mpr ⟨ok, rfl⟩⟩

theorem reaches_settleFor (n : Nat) (p : Pipeline) : p.Reaches (settleFor n p) := by
  obtain ⟨actions, ran, -⟩ := exists_run_settleFor n p
  exact ⟨actions, ran⟩

/-- An action from outside, and what the parties make of it. -/
theorem reaches_settled (p : Pipeline) (a : Action) :
    p.Reaches (if p.enabled a then (p.perform a).settle else p) := by
  split
  · next ok => exact (reaches_perform ok).trans (reaches_settleFor _ _)
  · exact .refl p

end Capture.Pipeline

section

variable {σ α β : Type}

/-- Every result of a program, in whatever state it starts, has a property. -/
def Always (program : StateM σ α) (property : α → Prop) : Prop :=
  ∀ state, property (program.run state).1

theorem always_pure {property : α → Prop} {a : α} (holds : property a) :
    Always (pure a : StateM σ α) property :=
  fun _ => holds

theorem always_bind {first : StateM σ α} {next : α → StateM σ β} {between : α → Prop}
    {property : β → Prop} (start : Always first between)
    (rest : ∀ a, between a → Always (next a) property) : Always (first >>= next) property := by
  intro state
  exact rest (first.run state).1 (start state) (first.run state).2

theorem Always.imp {program : StateM σ α} {property weaker : α → Prop}
    (holds : Always program property) (weaken : ∀ a, property a → weaker a) :
    Always program weaker :=
  fun state => weaken _ (holds state)

/-- What a program is not known to do may be anything. -/
theorem always_trivial (program : StateM σ α) : Always program fun _ => True :=
  fun _ => trivial

variable (platform : Platform σ) (child : Pid)

theorem reaches_effect_run (effect : Effect) (capture : Pipeline) :
    Always (effect.run platform child capture) capture.Reaches := by
  cases effect with
  | cutCapture => exact always_pure (capture.reaches_settled .cancel)
  | killChild => exact always_bind (always_trivial _) fun _ _ => always_pure (.refl capture)
  | killGroup => exact always_bind (always_trivial _) fun _ _ => always_pure (.refl capture)
  | killHandle => exact always_bind (always_trivial _) fun _ _ => always_pure (.refl capture)

theorem reaches_receive (s : Supervision) (news : News) :
    Always (s.receive platform child news) fun next => s.capture.Reaches next.capture := by
  cases news with
  | output stream bytes => exact always_pure (s.capture.reaches_settled (.read stream bytes))
  | ended stream => exact always_pure (s.capture.reaches_settled (.readEnd stream))
  | exited =>
      refine always_bind (always_trivial _) fun now _ => ?_
      refine always_bind (always_trivial _) fun outcome _ => ?_
      exact always_pure (.refl _)
  | quiet => exact always_pure (.refl _)

/-- **Supervision runs the capture.** -/
theorem reaches_superviseFor (n : Nat) (s : Supervision) :
    Always (superviseFor platform child n s) fun last => s.capture.Reaches last.capture := by
  induction n generalizing s with
  | zero => exact always_pure (.refl _)
  | succ n ih =>
      rw [superviseFor]
      split
      · exact always_pure (.refl _)
      · refine always_bind (always_trivial _) fun now _ => ?_
        split
        · next event _ =>
          dsimp only
          split
          · exact ih { s with control := s.control.perform now event }
          · next effect _ =>
            refine always_bind (reaches_effect_run platform child effect s.capture) ?_
            intro capture reached
            exact (ih ⟨s.control.perform now event, capture⟩).imp fun _ more => reached.trans more
        · refine always_bind (always_trivial _) fun news _ => ?_
          refine always_bind (reaches_receive platform child s news) ?_
          intro next reached
          exact (ih next).imp fun _ more => reached.trans more

/-- What was seen of a child includes the texts of a run of the capture. -/
def SeenInARun (seen : Supervised) : Prop :=
  ∃ actions p, Pipeline.run? {} actions = some p ∧
    seen.stdout = p.text .stdout ∧ seen.stderr = p.text .stderr

theorem seenInARun_supervise (spec : CommandSpec) (steps : Nat) (lastResort : Time.Duration) :
    Always (supervise platform spec steps child lastResort) SeenInARun := by
  refine always_bind (always_trivial _) fun begun _ => ?_
  refine always_bind (reaches_superviseFor platform child steps _) ?_
  rintro last ⟨actions, ran⟩
  refine always_bind (always_trivial _) fun _ _ => always_pure ?_
  exact ⟨actions, last.capture, ran, rfl, rfl⟩

/-- **The texts of an execution are those of a run of the capture.** -/
theorem execute_texts (spec : CommandSpec) :
    Always (execute platform spec) fun execution => ∀ result, execution = .finished result →
      ∃ actions p, Pipeline.run? {} actions = some p ∧
        result.stdout = p.text .stdout ∧ result.stderr = p.text .stderr := by
  unfold execute executeFor
  cases spec.validate with
  | error e => exact always_pure fun result refused => by cases refused
  | ok valid =>
      refine always_bind (always_trivial _) ?_
      intro startedAt _
      refine always_bind (always_trivial _) ?_
      intro start _
      refine always_bind (always_trivial _) ?_
      intro launched _
      cases launched with
      | error cause => exact always_pure fun result refused => by cases refused
      | ok child =>
          cases spec.timeout.add? killGrace with
          | none => exact always_pure fun result refused => by cases refused
          | some lastResort =>
              refine always_bind (seenInARun_supervise platform child spec stepBound lastResort) ?_
              intro seen inARun
              refine always_bind (always_trivial _) ?_
              intro stop _
              refine always_pure ?_
              rintro result ⟨⟩
              exact inARun

end

end Overseer
