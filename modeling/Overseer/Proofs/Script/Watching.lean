import Overseer.Proofs.Script.Looks
import Overseer.Proofs.Script.Readers
import Overseer.Proofs.Supervision.KillNotes

/-!
# Watching a child that follows a timeline

A run is over when its child has been collected and both readers are done (`Timeline.settledAt`).  These
three things come in any order, and each of them may come never: a descendant of a child that ended long
ago may hold a stream.

The watch looks at the child until the run is over or the deadline has passed.  After every look it is as
far as the timeline at that moment (`Tracks`), whatever was shown, and it has fewer looks ahead of it
(`outstanding`).  So it ends in one of two ways (`WatchEnds`): it has seen everything before the deadline,
or it is at the deadline and kills the group.
-/

namespace Overseer

open Overseer.Capture Overseer.Os Overseer.Processes

/-! ## Where the watch is on a timeline -/

/-- When a run is over: the child has ended, and both readers are done.  That may be never. -/
noncomputable def Timeline.settledAt (timeline : Timeline) : ℕ∞ :=
  max timeline.exitAt (max (timeline.readAt .stdout) (timeline.readAt .stderr))

theorem readAt_le_settledAt (timeline : Timeline) (s : Stream) :
    timeline.readAt s ≤ timeline.settledAt := by
  cases s with
  | stdout => exact le_max_of_le_right (le_max_left _ _)
  | stderr => exact le_max_of_le_right (le_max_right _ _)

/-- What comes out of a stream is never nothing: reading no bytes is how the end of a stream is seen. -/
def Emissions.Filled (emissions : Emissions) : Prop :=
  ∀ time s bytes, (time, Emission.output s bytes) ∈ emissions → bytes.data.toList ≠ []

namespace Script

/-- **The watch is as far as the timeline.** -/
structure Tracks (timeline : Timeline) (seen : List Sight) (m : Moment) : Prop where
  part : m.upcoming.Sublist timeline.emissions
  future : ∀ x ∈ m.upcoming, m.now ≤ x.1
  reading : ∀ s, Reading timeline.emissions s seen m
  ending : m.ending = timeline.ending
  untold : m.told = false → outcome? seen = none ∧ (m.now : ℕ∞) ≤ timeline.exitAt
  told : m.told = true → ∃ time status, timeline.ending = some (time, status) ∧ time ≤ m.now ∧
    outcome? seen = some (.ok status)

namespace Tracks

variable {timeline : Timeline} {seen : List Sight} {m : Moment} {rest : Emissions} {e : Emission}
variable {time limit : Nat} {status : ExitStatus}

theorem begin (timeline : Timeline) : Tracks timeline [] timeline.begin where
  part := List.Sublist.refl _
  future x _ := Nat.zero_le _
  reading s := .going rfl rfl rfl
  ending := rfl
  untold _ := ⟨rfl, bot_le⟩
  told told := by cases told

theorem ordered (tracks : Tracks timeline seen m) : m.upcoming.InOrder :=
  timeline.ordered.sublist tracks.part

/-- Something has come out of a stream. -/
theorem emission (tracks : Tracks timeline seen m) (next : m.upcoming = (time, e) :: rest)
    (first : ∀ exit ∈ m.exit?, time ≤ exit) :
    Tracks timeline (seen ++ [sightOf e])
      { m with now := time, upcoming := stillSeen e.stream (seen ++ [sightOf e]) rest } := by
  have less := stillSeen_sublist e.stream (seen ++ [sightOf e]) rest
  have part := tracks.part
  have ordered := tracks.ordered
  have closed := timeline.closed.sublist tracks.part
  rw [next] at part closed
  rw [next, Emissions.InOrder] at ordered
  have forth : m.now ≤ time := tracks.future (time, e) (by simp [next])
  have same : outcome? (seen ++ [sightOf e]) = outcome? seen := by
    rw [outcome?_append_singleton, outcome?_sightOf, Option.none_or]
  constructor
  case part => exact less.trans ((List.sublist_cons_self _ _).trans part)
  case future => exact fun x member => (List.pairwise_cons.mp ordered).1 x (less.subset member)
  case reading => exact fun s => (tracks.reading s).emission next (List.pairwise_cons.mp closed).1 forth
  case ending => exact tracks.ending
  case untold =>
    intro untold
    exact ⟨same.trans (tracks.untold untold).1, (Moment.le_exitAt_iff untold tracks.ending).mpr first⟩
  case told =>
    intro told
    obtain ⟨exit, status, ending, past, outcome⟩ := tracks.told told
    exact ⟨exit, status, ending, past.trans forth, same.trans outcome⟩

/-- The child has ended and has been collected. -/
theorem exited (tracks : Tracks timeline seen m) (untold : m.told = false)
    (ending : m.ending = some (time, status)) (first : ∀ x ∈ m.upcoming, time ≤ x.1) :
    Tracks timeline (seen ++ [.collected (.ok status)]) { m with now := time, told := true } := by
  have ending' : timeline.ending = some (time, status) := tracks.ending.symm.trans ending
  have forth : m.now ≤ time := by
    have := (tracks.untold untold).2
    rwa [Timeline.exitAt, ending', Nat.cast_le] at this
  constructor
  case part => exact tracks.part
  case future => exact first
  case reading => exact fun s => (tracks.reading s).pass rfl rfl forth rfl
  case ending => exact tracks.ending
  case untold => exact fun untold => by cases untold
  case told =>
    intro _
    refine ⟨time, status, ending', Nat.le_refl _, ?_⟩
    rw [outcome?_append_singleton]
    rfl

/-- Nothing has happened. -/
theorem nothing (tracks : Tracks timeline seen m) (forth : m.now ≤ limit)
    (silent : ∀ x ∈ m.upcoming, limit ≤ x.1) (alive : ∀ exit ∈ m.exit?, limit ≤ exit) :
    Tracks timeline (seen ++ [.nothing]) { m with now := limit } := by
  have same : outcome? (seen ++ [.nothing]) = outcome? seen := by
    rw [outcome?_append_singleton]
    rfl
  constructor
  case part => exact tracks.part
  case future => exact silent
  case reading => exact fun s => (tracks.reading s).pass rfl rfl forth rfl
  case ending => exact tracks.ending
  case untold =>
    intro untold
    exact ⟨same.trans (tracks.untold untold).1, (Moment.le_exitAt_iff untold tracks.ending).mpr alive⟩
  case told =>
    intro told
    obtain ⟨exit, status, ending, past, outcome⟩ := tracks.told told
    exact ⟨exit, status, ending, past.trans forth, same.trans outcome⟩

/-! ### What is known at rest -/

/-- A run that is over has everything, and the timeline says so. -/
theorem of_concluded (tracks : Tracks timeline seen m) (done : concluded seen = true) :
    timeline.settledAt ≤ m.now ∧ (∃ time status, timeline.ending = some (time, status) ∧
        outcome? seen = some (.ok status)) ∧
      ∀ s, kept s seen = (timeline.emissions.bytesOf s).take maxOutputBytes := by
  have told : m.told = true := by
    by_contra untold
    exact outcome?_ne_none_of_concluded done (tracks.untold (by simpa using untold)).1
  obtain ⟨exit, status, ending, past, outcome⟩ := tracks.told told
  have read : ∀ s, timeline.readAt s ≤ m.now ∧
      kept s seen = (timeline.emissions.bytesOf s).take maxOutputBytes := by
    intro s
    have full := streamOver_of_concluded done outcome s
    cases tracks.reading s with
    | going running => simp [full] at running
    | done _ bytes due => exact ⟨due, bytes⟩
  refine ⟨max_le ?_ (max_le (read .stdout).1 (read .stderr).1), ⟨exit, status, ending, outcome⟩,
    fun s => (read s).2⟩
  rw [Timeline.exitAt, ending]
  exact Nat.cast_le.mpr past

/-- A run that is not over waits for something that is yet to come. -/
theorem of_not_concluded (tracks : Tracks timeline seen m) (running : concluded seen = false) :
    m.now ≤ timeline.exitAt ∨ ∃ s, m.now ≤ timeline.readAt s := by
  cases told : m.told with
  | false => exact Or.inl (tracks.untold told).2
  | true =>
      obtain ⟨-, status, -, -, outcome⟩ := tracks.told told
      obtain ⟨s, reads⟩ : ∃ s, streamOver s seen = false := by
        rw [concluded, outcome] at running
        rcases Bool.and_eq_false_iff.mp running with out | err
        · exact ⟨.stdout, out⟩
        · exact ⟨.stderr, err⟩
      exact Or.inr ⟨s, (tracks.reading s).le_doneAt reads tracks.future⟩

end Tracks

/-! ## Every look brings the end nearer -/

theorem looksAt_emission_lt {e : Emission} {seen : List Sight}
    (running : streamOver e.stream seen = false)
    (filled : ∀ s bytes, e = .output s bytes → bytes.data.toList ≠ []) :
    looksAt e.stream (seen ++ [sightOf e]) < looksAt e.stream seen := by
  refine looksAt_append_lt running ?_
  rw [bytesOf_sightOf, ends_sightOf]
  cases e with
  | output s bytes => exact Or.inl (by simpa [Emission.bytesOf, Emission.stream] using filled s bytes rfl)
  | ended s => exact Or.inr (by simp [Emission.ends, Emission.stream])

/-- The looks that a watch may still take. -/
def outstanding (timeout : Nat) (seen : List Sight) (m : Moment) : Nat :=
  looksAt .stdout seen + looksAt .stderr seen + (!m.told).toNat + (decide (m.now < timeout)).toNat

/-- As time passes, the deadline does not come to lie ahead again. -/
theorem toNat_ahead_le {now later : Nat} (forth : now ≤ later) (timeout : Nat) :
    (decide (later < timeout)).toNat ≤ (decide (now < timeout)).toNat := by
  refine Bool.toNat_le_toNat ?_
  simp only [Bool.le_iff_imp, decide_eq_true_eq]
  exact fun early => Nat.lt_of_le_of_lt forth early

section

variable {timeline : Timeline} {seen : List Sight} {m : Moment} {time timeout : Nat} {e : Emission}
variable {rest : Emissions}

theorem outstanding_emission_lt (timeout : Nat) (tracks : Tracks timeline seen m)
    (filled : timeline.emissions.Filled) (next : m.upcoming = (time, e) :: rest) :
    outstanding timeout (seen ++ [sightOf e])
        { m with now := time, upcoming := stillSeen e.stream (seen ++ [sightOf e]) rest } <
      outstanding timeout seen m := by
  have member : (time, e) ∈ m.upcoming := by simp [next]
  have closed := timeline.closed.sublist tracks.part
  rw [next] at closed
  have running := ((tracks.reading e.stream).emission_of_eq next (List.pairwise_cons.mp closed).1 rfl).1
  have fewer : looksAt e.stream (seen ++ [sightOf e]) < looksAt e.stream seen := by
    refine looksAt_emission_lt running ?_
    rintro s bytes rfl
    exact filled time s bytes (tracks.part.subset member)
  have same : ∀ s, e.stream ≠ s → looksAt s (seen ++ [sightOf e]) = looksAt s seen := by
    intro s other
    refine looksAt_of_silent s seen _ ?_ ?_
    · rw [bytesOf_sightOf, Emission.bytesOf_of_ne other]
    · rw [ends_sightOf, Emission.ends_of_ne other]
  have ahead := toNat_ahead_le (tracks.future _ member) timeout
  unfold outstanding
  dsimp only at ahead ⊢
  cases from_ : e.stream with
  | stdout =>
      rw [from_] at fewer same
      have other := same .stderr (by decide)
      omega
  | stderr =>
      rw [from_] at fewer same
      have other := same .stdout (by decide)
      omega

theorem outstanding_exited_lt (timeout : Nat) (outcome : Except OsError ExitStatus)
    (untold : m.told = false) (forth : m.now ≤ time) :
    outstanding timeout (seen ++ [.collected outcome]) { m with now := time, told := true } <
      outstanding timeout seen m := by
  have ahead := toNat_ahead_le forth timeout
  have out := looksAt_of_silent .stdout seen (.collected outcome) rfl rfl
  have err := looksAt_of_silent .stderr seen (.collected outcome) rfl rfl
  simp only [outstanding, out, err, untold, Bool.not_true, Bool.not_false, Bool.toNat_true,
    Bool.toNat_false]
  omega

theorem outstanding_nothing_lt (early : m.now < timeout) :
    outstanding timeout (seen ++ [.nothing]) { m with now := timeout } < outstanding timeout seen m := by
  have out := looksAt_of_silent .stdout seen .nothing rfl rfl
  have err := looksAt_of_silent .stderr seen .nothing rfl rfl
  simp only [outstanding, out, err, early, Nat.lt_irrefl, decide_true, decide_false, Bool.toNat_true,
    Bool.toNat_false]
  omega

end

/-! ## A look -/

section

variable {σ : Type} {platform : Platform σ} {child : Pid} {deadline : Nat} {seen : List Sight}
variable {state after : σ}

/-- A look kills nobody. -/
theorem run_look_noting (platform : Platform σ) (state : σ) (notes : List KillNote) :
    (look platform.noting child deadline seen).run (state, notes) =
      (((look platform child deadline seen).run state).1,
        ((look platform child deadline seen).run state).2, notes) := by
  have noted : (platform.noting.await child (some deadline)).run (state, notes) =
      (((platform.await child (some deadline)).run state).1,
        ((platform.await child (some deadline)).run state).2, notes) := rfl
  rw [look, look, run_bind, run_bind, noted]
  cases ((platform.await child (some deadline)).run state).1 with
  | output s bytes =>
      dsimp only
      split <;> rfl
  | _ => rfl

/-- Nothing more is shown of a stream that is hung up. -/
def HangsUp (platform : Platform σ) (child : Pid) (describes : σ → Moment → Prop) : Prop :=
  ∀ state m s, describes state m →
    describes ((platform.hangUp child s).run state).2 { m with upcoming := m.upcoming.without s }

variable {describes : σ → Moment → Prop} {start limit : Nat} {m : Moment} {timeline : Timeline}
variable {time : Nat} {e : Emission} {rest : Emissions}

/-- What comes out of a stream is seen, and from a stream whose reader is done nothing more is. -/
theorem look_of_emission (seen : List Sight) (hangsUp : HangsUp platform child describes)
    (closed : ∀ x ∈ rest, e.ends x.2.stream = false)
    (awaited : (platform.await child (some deadline)).run state = (e.news, after))
    (described : describes after { m with now := time, upcoming := rest }) :
    ∃ next, (look platform child deadline seen).run state = (sightOf e, next) ∧
      describes next
        { m with now := time, upcoming := stillSeen e.stream (seen ++ [sightOf e]) rest } := by
  cases e with
  | output s bytes =>
      refine ⟨_, run_look_of_output seen awaited, ?_⟩
      by_cases full : streamOver s (seen ++ [.output s bytes]) = true
      · have less : stillSeen (Emission.output s bytes).stream
            (seen ++ [sightOf (.output s bytes)]) rest = rest.without s := if_pos full
        rw [less, if_pos full]
        exact hangsUp after _ s described
      · have all : stillSeen (Emission.output s bytes).stream
            (seen ++ [sightOf (.output s bytes)]) rest = rest := if_neg full
        rw [all, if_neg full]
        exact described
  | ended s =>
      refine ⟨after, run_look_of_ended seen awaited, ?_⟩
      -- Nothing comes out of the stream any more that could be hidden.
      have nothing : ∀ x ∈ rest, x.2.stream ≠ s := by
        rintro x member rfl
        simpa [Emission.ends] using closed x member
      have all : stillSeen s (seen ++ [.ended s]) rest = rest := by
        rw [stillSeen, Emissions.without_eq_self nothing, ite_self]
      simp only [Emission.stream, sightOf, all]
      exact described

/-- **A look keeps the watch on the timeline**, and fewer looks are left. -/
theorem tracks_look (follows : Follows platform child true start describes)
    (hangsUp : HangsUp platform child describes) (filled : timeline.emissions.Filled)
    (tracks : Tracks timeline seen m) (early : m.now < limit) (described : describes state m) :
    ∃ sight next later,
      (look platform child (start + limit) seen).run state = (sight, next) ∧
      describes next later ∧ Tracks timeline (seen ++ [sight]) later ∧ later.now ≤ limit ∧
      outstanding limit (seen ++ [sight]) later < outstanding limit seen m := by
  obtain ⟨later, shows_, described⟩ := follows.await state m limit described
  generalize awaited : (platform.await child (some (start + limit))).run state = answer
    at shows_ described
  obtain ⟨news, after⟩ := answer
  dsimp only at shows_ described
  cases shows_ with
  | @emission time e rest next inTime first =>
      have closed := timeline.closed.sublist tracks.part
      rw [next] at closed
      obtain ⟨_, looked, described⟩ :=
        look_of_emission seen hangsUp (List.pairwise_cons.mp closed).1 awaited described
      exact ⟨_, _, _, looked, described, tracks.emission next first, inTime,
        outstanding_emission_lt limit tracks filled next⟩
  | @exited time exit inTime first =>
      obtain ⟨untold, status, ending⟩ := Moment.exit?_eq_some_iff.mp exit
      obtain ⟨answer, described⟩ := follows.collect after _ time status described rfl ending
      have looked := run_look_of_exited seen awaited
      rw [answer] at looked
      have forth : m.now ≤ time := by
        have := (tracks.untold untold).2
        rwa [Timeline.exitAt, ← tracks.ending, ending, Nat.cast_le] at this
      exact ⟨_, _, _, looked, described, tracks.exited untold ending first, inTime,
        outstanding_exited_lt limit _ untold forth⟩
  | quiet silent alive =>
      have atLimit : max m.now limit = limit := max_eq_right early.le
      rw [atLimit] at described
      exact ⟨_, _, _, run_look_of_quiet seen awaited, described, tracks.nothing early.le silent alive,
        Nat.le_refl _, outstanding_nothing_lt early⟩

/-! ## A watch -/

/-- **How a watch ends**: it has seen everything before the deadline, or the group is killed. -/
inductive WatchEnds (timeline : Timeline) (timeout : Nat) (kill : KillNote) (seen : List Sight) :
    List KillNote → Prop
  | whole {time : Nat} {status : ExitStatus} (inTime : timeline.settledAt < timeout)
      (done : concluded seen = true) (ending : timeline.ending = some (time, status))
      (outcome : outcome? seen = some (.ok status))
      (bytes : ∀ s, kept s seen = (timeline.emissions.bytesOf s).take maxOutputBytes) :
      WatchEnds timeline timeout kill seen []
  | late (late : timeout < timeline.settledAt) (running : concluded seen = false) :
      WatchEnds timeline timeout kill seen [kill]

/-- A run that is over is over before the deadline. -/
theorem Tracks.watchEnds_of_concluded {kill : KillNote} (tracks : Tracks timeline seen m)
    (inTime : m.now ≤ limit) (exitApart : timeline.exitAt ≠ limit)
    (readApart : ∀ s, timeline.readAt s ≠ limit) (done : concluded seen = true) :
    WatchEnds timeline limit kill seen [] := by
  obtain ⟨settled, ⟨time, status, ending, outcome⟩, bytes⟩ := tracks.of_concluded done
  have settled : timeline.settledAt ≤ limit := settled.trans (Nat.cast_le.mpr inTime)
  refine .whole (max_lt ?_ (max_lt ?_ ?_)) done ending outcome bytes
  · exact lt_of_le_of_ne ((le_max_left _ _).trans settled) exitApart
  · exact lt_of_le_of_ne ((readAt_le_settledAt timeline .stdout).trans settled) (readApart .stdout)
  · exact lt_of_le_of_ne ((readAt_le_settledAt timeline .stderr).trans settled) (readApart .stderr)

/-- A run that is not over at the deadline is over later. -/
theorem Tracks.lt_settledAt (tracks : Tracks timeline seen m) (exitApart : timeline.exitAt ≠ m.now)
    (readApart : ∀ s, timeline.readAt s ≠ m.now) (running : concluded seen = false) :
    (m.now : ℕ∞) < timeline.settledAt := by
  rcases tracks.of_not_concluded running with alive | ⟨s, reads⟩
  · exact (lt_of_le_of_ne alive exitApart.symm).trans_le (le_max_left _ _)
  · exact (lt_of_le_of_ne reads (readApart s).symm).trans_le (readAt_le_settledAt timeline s)

theorem Follows.run_clock_noting (follows : Follows platform child true start describes)
    (described : describes state m) (notes : List KillNote) :
    platform.noting.clock.run (state, notes) =
      (start + m.now, (platform.clock.run state).2, notes) := by
  rw [← (follows.clock state m described).1]
  rfl

/-- **The watch ends as the timeline says.** -/
theorem watchEnds_watchFor (follows : Follows platform child true start describes)
    (hangsUp : HangsUp platform child describes) (filled : timeline.emissions.Filled)
    (exitApart : timeline.exitAt ≠ limit) (readApart : ∀ s, timeline.readAt s ≠ limit)
    (tracks : Tracks timeline seen m) (inTime : m.now ≤ limit)
    (enough : outstanding limit seen m < n) (described : describes state m) (notes : List KillNote) :
    ∃ last after more,
      (watchFor platform.noting child (start + limit) n seen).run (state, notes) =
        (last, after, notes ++ more) ∧
      WatchEnds timeline limit ⟨start + limit, -(child.toNat : Int)⟩ last more := by
  induction n generalizing seen m state with
  | zero => omega
  | succ n ih =>
      cases done : concluded seen with
      | true =>
          rw [run_watchFor_of_concluded done]
          refine ⟨seen, state, [], by rw [List.append_nil], ?_⟩
          exact tracks.watchEnds_of_concluded inTime exitApart readApart done
      | false =>
          have clock := Follows.run_clock_noting follows described notes
          have described := (follows.clock state m described).2
          rcases Nat.eq_or_lt_of_le inTime with rfl | early
          · rw [run_watchFor_of_late done clock (Nat.le_refl _)]
            have killed := run_forceKillGroup_noting platform follows.pid
              (platform.clock.run state).2 notes
            rw [(follows.clock _ _ described).1] at killed
            refine ⟨seen, _, _, congrArg (Prod.mk seen) (Prod.ext rfl killed), ?_⟩
            exact .late (tracks.lt_settledAt exitApart readApart done) done
          · obtain ⟨sight, next, later, looked, described, onward, before, fewer⟩ :=
              tracks_look follows hangsUp filled tracks early described
            have noted : (look platform.noting child (start + limit) seen).run
                ((platform.clock.run state).2, notes) = (sight, next, notes) := by
              rw [run_look_noting, looked]
            rw [run_watchFor_of_early done clock (by omega) noted]
            exact ih onward before (by omega) described

end

end Script

end Overseer
