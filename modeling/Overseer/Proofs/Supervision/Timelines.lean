import Mathlib.Data.ENat.Lattice
import Overseer.Proofs.Supervision.Programs

/-!
# Children that follow a timeline

A timeline says when a child ends if it is not killed, and when what comes out of its two streams.  The
streams have ends of their own, which may come before the end of the child, behind it or never: a
descendant may hold them.  A kill that takes the descendants along is a timeline whose streams end then.
All times of a timeline count from the start of the child.

A system plays out a timeline in *moments*.  A look at the system shows the next thing that happens, if
it happens up to the limit of the look, and otherwise that nothing has happened (`Moment.Shows`); of
things that happen at the same time, any may be shown first.  A child that is killed ends at once
(`Moment.killed`).

A system `Follows` its child from moment to moment when every look at it, every kill and every collection
agrees with this.  Once the child is there, nothing but a look takes time.

## Main definitions

* `Emission`, `Emissions`, `Timeline` — what happens to a child, and when
* `Moment`, `Moment.Shows`, `Moment.killed` — how far it has got, and what changes that
* `Follows`, `Plays` — a system that plays out a timeline
* `stage` — such a system
-/

namespace Overseer

open Overseer.Os Overseer.Processes

/-- What comes out of a stream. -/
inductive Emission where
  /-- bytes -/
  | output (stream : Stream) (bytes : ByteArray)
  /-- the end of the stream -/
  | ended (stream : Stream)

namespace Emission

/-- The stream out of which it comes. -/
def stream : Emission → Stream
  | output stream _ => stream
  | ended stream => stream

/-- What is seen of it. -/
def news : Emission → News
  | output stream bytes => .output stream bytes
  | ended stream => .ended stream

/-- The bytes of a stream that it brings. -/
def bytesOf (s : Stream) : Emission → List UInt8
  | output t bytes => if t = s then bytes.data.toList else []
  | ended _ => []

/-- It is the end of a stream. -/
def ends (s : Stream) : Emission → Bool
  | output _ _ => false
  | ended t => decide (t = s)

end Emission

/-- What comes out of the streams of a child, and when. -/
abbrev Emissions := List (Nat × Emission)

namespace Emissions

/-- The bytes of a stream, one behind the other. -/
def bytesOf (emissions : Emissions) (s : Stream) : List UInt8 := emissions.flatMap (·.2.bytesOf s)

/-- The end of a stream is among them. -/
def shut (emissions : Emissions) (s : Stream) : Bool := emissions.any (·.2.ends s)

/-- When a stream ends; that may be never. -/
def endOf (emissions : Emissions) (s : Stream) : ℕ∞ :=
  match emissions.find? (·.2.ends s) with
  | some (time, _) => time
  | none => ⊤

/-- They are listed in the order of time. -/
def InOrder (emissions : Emissions) : Prop :=
  emissions.Pairwise fun early late => early.1 ≤ late.1

variable {seen rest : Emissions} {s : Stream} {limit : Nat}

theorem bytesOf_append (seen rest : Emissions) (s : Stream) :
    bytesOf (seen ++ rest) s = seen.bytesOf s ++ rest.bytesOf s :=
  List.flatMap_append

theorem shut_append (seen rest : Emissions) (s : Stream) :
    shut (seen ++ rest) s = (seen.shut s || rest.shut s) :=
  List.any_append

/-- A stream that has ended has ended in time, if everything has come out in time. -/
theorem endOf_le (ended : seen.shut s = true) (inTime : ∀ x ∈ seen, x.1 ≤ limit) :
    endOf (seen ++ rest) s ≤ limit := by
  have found : (seen.find? (·.2.ends s)).isSome = true := by
    rwa [List.find?_isSome, ← List.any_eq_true]
  obtain ⟨x, first⟩ := Option.isSome_iff_exists.mp found
  rw [endOf, List.find?_append, first]
  exact Nat.cast_le.mpr (inTime x (List.mem_of_find?_eq_some first))

/-- A stream that has not ended ends late, if everything else comes out late. -/
theorem le_endOf (open_ : seen.shut s = false) (late : ∀ x ∈ rest, limit ≤ x.1) :
    (limit : ℕ∞) ≤ endOf (seen ++ rest) s := by
  have unseen : seen.find? (·.2.ends s) = none := by
    rw [shut, List.any_eq_false] at open_
    rwa [List.find?_eq_none]
  rw [endOf, List.find?_append, unseen, Option.none_or]
  cases found : rest.find? (·.2.ends s) with
  | none => exact le_top
  | some x => exact Nat.cast_le.mpr (late x (List.mem_of_find?_eq_some found))

end Emissions

/-- What happens to a child, and when. -/
structure Timeline where
  /-- when and how the child ends by itself, unless it never does -/
  ending : Option (Nat × ExitStatus)
  /-- what comes out of the streams, and when -/
  emissions : Emissions
  ordered : emissions.InOrder
  /-- Nothing comes out of a stream behind its end. -/
  closed : emissions.Pairwise fun early late => early.2.ends late.2.stream = false

/-- When the child ends; that may be never. -/
def Timeline.exitAt (timeline : Timeline) : ℕ∞ :=
  match timeline.ending with
  | some (time, _) => time
  | none => ⊤

/-- How far a child has got on its timeline. -/
structure Moment where
  /-- the time since its start -/
  now : Nat
  /-- what has yet to come out of the streams -/
  upcoming : Emissions
  /-- when and how the child ends, unless it never does -/
  ending : Option (Nat × ExitStatus)
  /-- the end of the child has been seen -/
  told : Bool := false

/-- The first moment. -/
def Timeline.begin (timeline : Timeline) : Moment where
  now := 0
  upcoming := timeline.emissions
  ending := timeline.ending

namespace Moment

/-- When the end of the child will be seen. -/
def exit? (m : Moment) : Option Nat := if m.told then none else m.ending.map Prod.fst

theorem exit?_eq_some_iff {m : Moment} {time : Nat} :
    m.exit? = some time ↔ m.told = false ∧ ∃ status, m.ending = some (time, status) := by
  unfold exit?
  cases m.told <;> simp

theorem le_exitAt_iff {m : Moment} {timeline : Timeline} {time : Nat} (untold : m.told = false)
    (same : m.ending = timeline.ending) :
    (time : ℕ∞) ≤ timeline.exitAt ↔ ∀ exit ∈ m.exit?, time ≤ exit := by
  rw [exit?, untold, same, Timeline.exitAt]
  cases timeline.ending <;> simp

/-- What a look shows that waits up to a limit. -/
inductive Shows (limit : Nat) : Moment → News → Moment → Prop
  /-- the next thing that comes out of a stream -/
  | emission {m : Moment} {time : Nat} {e : Emission} {rest : Emissions}
      (next : m.upcoming = (time, e) :: rest) (inTime : time ≤ limit)
      (first : ∀ exit ∈ m.exit?, time ≤ exit) :
      Shows limit m e.news { m with now := time, upcoming := rest }
  /-- the end of the child -/
  | exited {m : Moment} {time : Nat} (exit : m.exit? = some time) (inTime : time ≤ limit)
      (first : ∀ x ∈ m.upcoming, time ≤ x.1) :
      Shows limit m .exited { m with now := time, told := true }
  /-- nothing, up to the limit -/
  | quiet {m : Moment} (silent : ∀ x ∈ m.upcoming, limit ≤ x.1)
      (alive : ∀ exit ∈ m.exit?, limit ≤ exit) :
      Shows limit m .quiet { m with now := max m.now limit }

/-- The child has ended. -/
def hasEnded (m : Moment) : Bool := m.ending.any fun ending => ending.1 ≤ m.now

theorem hasEnded_eq_false {m : Moment} {timeline : Timeline} (same : m.ending = timeline.ending)
    (late : (m.now : ℕ∞) < timeline.exitAt) : m.hasEnded = false := by
  rw [Timeline.exitAt, ← same] at late
  unfold hasEnded
  cases ending : m.ending with
  | none => rfl
  | some ending =>
      simp only [ending, Nat.cast_lt] at late
      simpa using late

/-- **An effective kill**: a child that has not ended ends at once. -/
def killed (m : Moment) : Moment :=
  if m.hasEnded then m else { m with ending := some (m.now, .signal ExitStatus.killSignal) }

@[simp] theorem upcoming_killed (m : Moment) : m.killed.upcoming = m.upcoming := by
  unfold killed
  split <;> rfl

end Moment

section

variable {σ : Type}

/-- **A system follows a child.**  Each of its states is described by a moment, and what is asked of it
keeps to that.  The child was started at a given time on the clock.  A kill by the number of the child is
effective, and so is one by the number of its group if it leads one. -/
structure Follows (platform : Platform σ) (child : Pid) (ownGroup : Bool) (start : Nat)
    (describes : σ → Moment → Prop) : Prop where
  pid : 0 < child.toNat ∧ child.toNat ≤ maxPid
  clock : ∀ s m, describes s m →
    (platform.clock.run s).1 = start + m.now ∧ describes (platform.clock.run s).2 m
  await : ∀ s m limit, describes s m → ∃ m',
    m.Shows limit ((platform.await child (some (start + limit))).run s).1 m' ∧
      describes ((platform.await child (some (start + limit))).run s).2 m'
  collect : ∀ s m time status, describes s m → m.told = true → m.ending = some (time, status) →
    ((platform.collect child).run s).1 = .ok status ∧
      describes ((platform.collect child).run s).2 m
  kill : ∀ s m, describes s m → m.told = false →
    describes ((platform.kill child.toNat).run s).2 m.killed
  killGroup : ownGroup = true → ∀ s m, describes s m → m.told = false →
    describes ((platform.kill (-child.toNat)).run s).2 m.killed
  release : ∀ s m, describes s m → describes ((platform.release child).run s).2 m

/-- From a state on, a launch gives a child that plays out a timeline, which begins on the clock when the
child is there. -/
def Plays (platform : Platform σ) (launch : Launch) (timeline : Timeline) (begun : Nat) (state : σ) :
    Prop :=
  ∃ start child after describes, platform.Starts launch state start child begun after ∧
    describes after timeline.begin ∧ Follows platform child launch.ownGroup begun describes

end

/-! ## A system that plays out a timeline -/

namespace Moment

/-- The next thing that happens, and the moment when it has been seen. -/
def due? (m : Moment) : Option (Nat × News × Moment) :=
  match m.exit?, m.upcoming with
  | none, [] => none
  | some exit, [] => some (exit, .exited, { m with now := exit, told := true })
  | none, (time, e) :: rest => some (time, e.news, { m with now := time, upcoming := rest })
  | some exit, (time, e) :: rest =>
    if exit ≤ time then some (exit, .exited, { m with now := exit, told := true })
    else some (time, e.news, { m with now := time, upcoming := rest })

/-- A look that waits up to a limit. -/
def look (limit : Nat) (m : Moment) : News × Moment :=
  match m.due? with
  | some (time, news, next) =>
    if time ≤ limit then (news, next) else (.quiet, { m with now := max m.now limit })
  | none => (.quiet, { m with now := max m.now limit })

variable {m next : Moment} {time : Nat} {news : News}

theorem due?_eq_none (nothing : m.due? = none) : m.exit? = none ∧ m.upcoming = [] := by
  unfold due? at nothing
  split at nothing
  · next alive silent => exact ⟨alive, silent⟩
  · cases nothing
  · cases nothing
  · split at nothing <;> cases nothing

/-- What is due is shown, and nothing comes before it. -/
theorem due?_eq_some (sorted : m.upcoming.InOrder)
    (due : m.due? = some (time, news, next)) :
    (∀ limit, time ≤ limit → m.Shows limit news next) ∧ (∀ x ∈ m.upcoming, time ≤ x.1) ∧
      (∀ exit ∈ m.exit?, time ≤ exit) ∧ next.upcoming <:+ m.upcoming := by
  unfold due? at due
  split at due
  · cases due
  · next exit alive silent =>
    cases due
    refine ⟨fun _ inTime => .exited alive inTime ?_, ?_, ?_, List.suffix_rfl⟩ <;> simp_all
  · next first rest gone upcoming =>
    cases due
    rw [upcoming] at sorted ⊢
    obtain ⟨ahead, -⟩ := List.pairwise_cons.mp sorted
    refine ⟨fun _ inTime => .emission upcoming inTime ?_, ?_, ?_, List.suffix_cons ..⟩
    · simp [gone]
    · exact List.forall_mem_cons.mpr ⟨Nat.le_refl _, ahead⟩
    · simp [gone]
  · next exit first e rest alive upcoming =>
    rw [upcoming] at sorted ⊢
    obtain ⟨ahead, -⟩ := List.pairwise_cons.mp sorted
    split at due
    · next early =>
      cases due
      have before : ∀ x ∈ (first, e) :: rest, time ≤ x.1 := by
        refine List.forall_mem_cons.mpr ⟨early, fun x member => ?_⟩
        exact Nat.le_trans early (ahead x member)
      refine ⟨fun _ inTime => .exited alive inTime (upcoming ▸ before), before, ?_, ?_⟩
      · simp [alive]
      · exact upcoming ▸ List.suffix_rfl
    · next late =>
      cases due
      have before : ∀ exit' ∈ m.exit?, time ≤ exit' := by
        simp only [alive, Option.mem_some_iff, forall_eq']
        omega
      refine ⟨fun _ inTime => .emission upcoming inTime before, ?_, before, List.suffix_cons ..⟩
      exact List.forall_mem_cons.mpr ⟨Nat.le_refl _, ahead⟩

/-- **A look shows what a look may show.** -/
theorem shows_look (limit : Nat) (sorted : m.upcoming.InOrder) :
    m.Shows limit (m.look limit).1 (m.look limit).2 ∧ (m.look limit).2.upcoming.InOrder := by
  unfold look
  cases due : m.due? with
  | none =>
      obtain ⟨alive, silent⟩ := due?_eq_none due
      exact ⟨.quiet (by simp [silent]) (by simp [alive]), sorted⟩
  | some d =>
      obtain ⟨time, news, next⟩ := d
      obtain ⟨shows_, before, alive, rest⟩ := due?_eq_some sorted due
      dsimp only
      split
      · next inTime => exact ⟨shows_ limit inTime, sorted.sublist rest.sublist⟩
      · next late =>
        refine ⟨.quiet (fun x member => ?_) fun exit member => ?_, sorted⟩
        · have := before x member
          omega
        · have := alive exit member
          omega

end Moment

/-- A system whose states are moments of its one child. -/
def stage : Platform Moment where
  clock m := (m.now, m)
  timeOfDay := pure default
  launch _ := pure (.ok 2)
  await _ limit m := match limit with
    | some limit => m.look limit
    | none => (.quiet, m)
  collect _ m := match m.ending with
    | some (_, status) => (.ok status, m)
    | none => (.error (.ofErrno .noChild), m)
  kill target m :=
    if target.natAbs = 2 then (.ok (), m.killed) else (.error .noProcess, m)
  hangUp _ _ := pure ()
  release _ := pure ()

/-- A state of the stage is its own moment. -/
theorem follows_stage (ownGroup : Bool) :
    Follows stage 2 ownGroup 0 fun s m => s = m ∧ m.upcoming.InOrder := by
  constructor
  case pid => decide
  case clock =>
    rintro s m ⟨rfl, sorted⟩
    exact ⟨(Nat.zero_add _).symm, rfl, sorted⟩
  case await =>
    rintro s m limit ⟨rfl, sorted⟩
    rw [Nat.zero_add]
    obtain ⟨shows_, still⟩ := s.shows_look limit sorted
    exact ⟨_, shows_, rfl, still⟩
  case collect =>
    rintro s m time status ⟨rfl, sorted⟩ - ended
    have answer : (stage.collect 2).run s = (.ok status, s) := by
      simp only [stage, StateT.run, ended]
    rw [answer]
    exact ⟨rfl, rfl, sorted⟩
  case kill =>
    rintro s m ⟨rfl, sorted⟩ -
    exact ⟨rfl, by rwa [Moment.upcoming_killed]⟩
  case killGroup =>
    rintro - s m ⟨rfl, sorted⟩ -
    exact ⟨rfl, by rwa [Moment.upcoming_killed]⟩
  case release => exact fun s m described => described

theorem plays_stage (launch : Launch) (timeline : Timeline) :
    Plays stage launch timeline 0 timeline.begin :=
  ⟨0, 2, _, _, ⟨_, _, rfl, rfl, rfl⟩, ⟨rfl, timeline.ordered⟩, follows_stage launch.ownGroup⟩

end Overseer
