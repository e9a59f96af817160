import Overseer.Proofs.Supervision.KeepingUp
import Overseer.Proofs.Supervision.Steps

/-!
# Supervising a child that follows a timeline

A supervision is run against a child that follows a timeline.  `EndsIn` says that from any state of the
system that a moment describes, the supervision ends in a state and a moment with some property.  There is
one rule for it for each thing that a supervision does next: it has finished, it takes a step of its own, it
kills, it cuts the capture short, or it waits and sees what the timeline shows.

The rules are put together from the end of the course to its start, since what is to be shown is about the
end: the grace time of the capture (`endsIn_of_draining`), the collection of the child
(`endsIn_of_collected`), the kill (`endsIn_of_fired`), the deadline (`endsIn_of_deadline`) and the wait for
one of the two (`endsIn_of_running`).  In three of these the supervision waits again and again; the
induction is on the steps that are left, of which every wait takes one.

The three timers meet the two ends of streams in any order; all that the induction has to know about the
order is that the capture keeps up.
-/

namespace Overseer

open Overseer.Capture Overseer.Os Overseer.Processes Overseer.Time

/-! ## Running through moments -/

section

variable {σ : Type} (platform : Platform σ) (child : Pid) (describes : σ → Moment → Prop)

/-- From every state that the moment describes, so many steps of the supervision lead to a goal. -/
def EndsIn (n : Nat) (s : Supervision) (m : Moment) (goal : Supervision → Moment → Prop) : Prop :=
  ∀ state, describes state m → ∃ last,
    describes ((superviseFor platform child n s).run state).2 last ∧
      goal ((superviseFor platform child n s).run state).1 last

variable {platform child describes} {ownGroup : Bool} {start n limit : Nat} {event : Event}
variable {s : Supervision} {m : Moment} {goal weaker : Supervision → Moment → Prop}

theorem EndsIn.imp (ends : EndsIn platform child describes n s m goal)
    (weaken : ∀ s m, goal s m → weaker s m) : EndsIn platform child describes n s m weaker := by
  intro state described
  obtain ⟨last, still, reached⟩ := ends state described
  exact ⟨last, still, weaken _ _ reached⟩

/-- A supervision that has finished does not go on. -/
theorem EndsIn.done (done : s.finished = true) (reached : goal s m) :
    EndsIn platform child describes n s m goal := by
  intro state described
  rw [superviseFor_of_finished done]
  exact ⟨m, described, reached⟩

section

variable (follows : Follows platform child ownGroup start describes)
include follows

/-- The kill of the watchdog reaches the child. -/
theorem Follows.kills {state : σ} (described : describes state m) (untold : m.told = false)
    (capture : Pipeline) :
    let effect : Effect := if ownGroup then .killGroup else .killChild
    ((effect.run platform child capture).run state).1 = capture ∧
      describes ((effect.run platform child capture).run state).2 m.killed := by
  have number : killArgument? child = some (child.toNat : Int) :=
    checkedPid?_eq_some_iff.mpr ⟨follows.pid.1, follows.pid.2, rfl⟩
  cases group : ownGroup with
  | true =>
      have opposite : killGroupArgument? child = some (-(child.toNat : Int)) := by
        rw [killGroupArgument?, ← killArgument?, number, Option.map_some]
      refine ⟨rfl, ?_⟩
      simp only [if_true, Effect.run, forceKillGroup, opposite]
      rw [run_bind, state_sendKill]
      exact follows.killGroup group state m described untold
  | false =>
      refine ⟨rfl, ?_⟩
      simp only [Bool.false_eq_true, if_false, Effect.run, forceKill, number]
      rw [run_bind, state_sendKill]
      exact follows.kill state m described untold

/-- A step without an effect. -/
theorem EndsIn.silent (open_ : s.finished = false)
    (next : s.control.next? (start + m.now) = some event) (still : s.control.effect? event = none)
    (rest : EndsIn platform child describes n
      { s with control := s.control.perform (start + m.now) event } m goal) :
    EndsIn platform child describes (n + 1) s m goal := by
  intro state described
  obtain ⟨time, kept⟩ := follows.clock state m described
  rw [← time] at next
  rw [run_superviseFor_of_silent open_ next still, time]
  exact rest _ kept

/-- The kill of the watchdog. -/
theorem EndsIn.fire (open_ : s.finished = false)
    (next : s.control.next? (start + m.now) = some .fire) (group : s.control.detached = ownGroup)
    (untold : m.told = false)
    (rest : EndsIn platform child describes n
      { s with control := s.control.perform (start + m.now) .fire } m.killed goal) :
    EndsIn platform child describes (n + 1) s m goal := by
  intro state described
  obtain ⟨time, kept⟩ := follows.clock state m described
  obtain ⟨same, killed⟩ := follows.kills kept untold s.capture
  rw [← time] at next
  have does : s.control.effect? .fire = some (if ownGroup then .killGroup else .killChild) := by
    rw [Control.effect?, group]
  rw [run_superviseFor_of_effect open_ next does, time, same]
  exact rest _ killed

/-- The end of the grace time of the capture. -/
theorem EndsIn.cut (open_ : s.finished = false)
    (next : s.control.next? (start + m.now) = some .cutDrain)
    (rest : EndsIn platform child describes n
      { control := s.control.perform (start + m.now) .cutDrain, capture := s.capture.cut } m goal) :
    EndsIn platform child describes (n + 1) s m goal := by
  intro state described
  obtain ⟨time, kept⟩ := follows.clock state m described
  rw [← time] at next
  rw [run_superviseFor_of_effect open_ next rfl, time]
  exact rest _ kept

/-- A wait. -/
theorem EndsIn.wait (open_ : s.finished = false) (idle : s.control.next? (start + m.now) = none)
    (wake : s.control.wakeAt = some (start + limit))
    (emission : ∀ time e more, m.upcoming = (time, e) :: more → time ≤ limit →
      (∀ exit ∈ m.exit?, time ≤ exit) →
      EndsIn platform child describes n { s with capture := e.into s.capture }
        { m with now := time, upcoming := more } goal)
    (exited : ∀ time status, m.told = false → m.ending = some (time, status) → time ≤ limit →
      (∀ x ∈ m.upcoming, time ≤ x.1) →
      EndsIn platform child describes n
        { s with control := { s.control with child := .collected (.ok status) } }
        { m with now := time, told := true } goal)
    (quiet : (∀ x ∈ m.upcoming, limit ≤ x.1) → (∀ exit ∈ m.exit?, limit ≤ exit) →
      EndsIn platform child describes n s { m with now := max m.now limit } goal) :
    EndsIn platform child describes (n + 1) s m goal := by
  intro state described
  obtain ⟨time, kept⟩ := follows.clock state m described
  rw [← time] at idle
  obtain ⟨⟨news, after⟩, waited⟩ : ∃ r, (platform.await child s.control.wakeAt).run
      (platform.clock.run state).2 = r := ⟨_, rfl⟩
  rw [run_superviseFor_of_idle open_ idle waited]
  obtain ⟨later, shown, described⟩ := follows.await _ m limit kept
  rw [← wake, waited] at shown described
  dsimp only at shown described
  -- What the look has shown is received; the end of the child is collected at once.
  cases shown with
  | @emission time e more next inTime first =>
      have received : s.receive platform child e.news = pure { s with capture := e.into s.capture } := by
        cases e <;> rfl
      rw [received]
      exact emission time e more next inTime first after described
  | @exited time exit inTime first =>
      obtain ⟨untold, status, ending⟩ := Moment.exit?_eq_some_iff.mp exit
      have time := follows.clock after _ described
      have collected := follows.collect _ _ _ status time.2 rfl ending
      have received : (s.receive platform child .exited).run after =
          ({ s with control := { s.control with child := .collected (.ok status) } },
            ((platform.collect child).run (platform.clock.run after).2).2) := by
        simp only [Supervision.receive]
        rw [run_bind, run_bind, collected.1]
        rfl
      rw [received]
      exact exited _ status untold ending inTime first _ collected.2
  | quiet silent alive =>
      exact quiet silent alive after described

end

end

/-! ## What the parties do next -/

namespace Control

variable {c : Control} {time now : Nat}

/-- The child runs, as far as its waiter knows. -/
structure Running (c : Control) : Prop where
  child : c.child = .running
  announced : c.announced = false
  handleUsed : c.handleUsed = false
  drainUntil : c.drainUntil = none
  cut : c.cut = false

/-- The end of the child has been announced, the watchdog has answered, and the capture goes on up to
a given time. -/
structure Draining (c : Control) (time : Nat) : Prop where
  collected : c.isCollected = true
  announced : c.announced = true
  answered : c.watchdog ≠ .armed
  drainUntil : c.drainUntil = some time
  cut : c.cut = false

/-- The child has been collected, and its capture has no grace time yet. -/
structure Collected (c : Control) (outcome : Except OsError ExitStatus) : Prop where
  child : c.child = .collected outcome
  drainUntil : c.drainUntil = none
  cut : c.cut = false

theorem Running.next?_eq_fire (running : c.Running) (armed : c.watchdog = .armed)
    (late : c.deadline ≤ now) : c.next? now = some .fire := by
  simp [next?, enabled, isCollected, running.child, running.announced, armed, late]

theorem Running.next?_eq_none (running : c.Running) (early : now < c.lastResort)
    (still : c.watchdog = .armed → now < c.deadline) : c.next? now = none := by
  simp [next?, enabled, isCollected, running.child, running.announced, running.drainUntil,
    running.handleUsed, early]
  exact still

theorem Running.wakeAt_of_armed (running : c.Running) (armed : c.watchdog = .armed)
    (later : c.deadline ≤ c.lastResort) : c.wakeAt = some c.deadline := by
  simp [wakeAt, isCollected, running.child, running.handleUsed, running.drainUntil, armed, earlier?,
    later]

theorem Running.wakeAt_of_fired (running : c.Running) (fired : c.watchdog = .fired) :
    c.wakeAt = some c.lastResort := by
  simp [wakeAt, isCollected, running.child, running.handleUsed, running.drainUntil, fired, earlier?]

variable {outcome : Except OsError ExitStatus}

theorem Collected.next?_eq_announce (collected : c.Collected outcome)
    (unannounced : c.announced = false) : c.next? now = some .announce := by
  simp [next?, enabled, isCollected, collected.child, unannounced]

theorem next?_eq_standDown (announced : c.announced = true) (armed : c.watchdog = .armed) :
    c.next? now = some .standDown := by
  simp [next?, enabled, announced, armed]

theorem Collected.next?_eq_beginDrain (collected : c.Collected outcome)
    (announced : c.announced = true) (answered : c.watchdog ≠ .armed) :
    c.next? now = some .beginDrain := by
  simp [next?, enabled, isCollected, collected.child, collected.drainUntil, announced, answered]

theorem Draining.next?_eq (draining : c.Draining time) :
    c.next? now = if time ≤ now then some .cutDrain else none := by
  by_cases late : time ≤ now <;>
    simp [next?, enabled, draining.collected, draining.announced, draining.answered,
      draining.drainUntil, draining.cut, late]

theorem Draining.wakeAt_eq (draining : c.Draining time) : c.wakeAt = some time := by
  simp [wakeAt, draining.collected, draining.answered, draining.drainUntil, draining.cut, earlier?]

end Control

/-! ## The course of a supervision -/

/-- **How a supervision ends** whose capture has a grace time from one time to another.  It ends when the
capture has got everything or with the grace time, and in the first case the texts are complete. -/
structure EndsDraining (timeline : Timeline) (began limit : Nat) (outcome : Except OsError ExitStatus)
    (watchdog : Watchdog) (s : Supervision) (last : Moment) : Prop where
  outcome : s.control.outcome? = some outcome
  watchdog : s.control.watchdog = watchdog
  time : (last.now : ℕ∞) = min (limit : ℕ∞) (max (began : ℕ∞) timeline.drainedAt)
  texts : timeline.drainedAt < (limit : ℕ∞) →
    ∀ stream, s.capture.text stream = wholeText (timeline.emissions.bytesOf stream)

/-- As long as the capture waits for the end of a stream, it does not matter since when. -/
theorem EndsDraining.sooner {timeline : Timeline} {began sooner limit : Nat}
    {outcome : Except OsError ExitStatus} {watchdog : Watchdog} {s : Supervision} {last : Moment}
    (ends : EndsDraining timeline began limit outcome watchdog s last)
    (waits : (began : ℕ∞) ≤ timeline.drainedAt) (before : sooner ≤ began) :
    EndsDraining timeline sooner limit outcome watchdog s last := by
  refine ⟨ends.outcome, ends.watchdog, ?_, ends.texts⟩
  have waits' : (sooner : ℕ∞) ≤ timeline.drainedAt := (Nat.cast_le.mpr before).trans waits
  rw [ends.time, max_eq_right waits, max_eq_right waits']

/-- **How a supervision ends that follows a timeline**: in the way of the child when that ends in time,
and by the kill of the watchdog when it does not. -/
inductive Concludes (timeline : Timeline) (timeout : Nat) (s : Supervision) (last : Moment) : Prop
  /-- the child has ended before its time was over -/
  | inTime {time : Nat} {status : ExitStatus} (ending : timeline.ending = some (time, status))
      (early : time < timeout)
      (ends : EndsDraining timeline time (time + drainGrace.nanoseconds) (.ok status) .stoodDown s last)
  /-- the child has been killed when its time was over -/
  | timedOut (late : (timeout : ℕ∞) < timeline.exitAt)
      (ends : EndsDraining timeline timeout (timeout + drainGrace.nanoseconds)
        (.ok (.signal ExitStatus.killSignal)) .fired s last)

section

variable {σ : Type} {platform : Platform σ} {child : Pid} {describes : σ → Moment → Prop}
variable {ownGroup : Bool} {start n limit : Nat} {c : Control} {m : Moment} {p : Pipeline}
variable {timeline : Timeline} {seen : Emissions}
variable {outcome : Except OsError ExitStatus}
variable (follows : Follows platform child ownGroup start describes)
include follows

/-- The grace time of the capture is over. -/
theorem endsIn_of_graceOver (draining : c.Draining (start + limit)) (ended : c.outcome? = some outcome)
    (keeps : KeepsUp timeline seen m p) (open_ : p.finished = false) (late : m.now = limit)
    (enough : 1 ≤ n) :
    EndsIn platform child describes n ⟨c, p⟩ m
      (EndsDraining timeline m.now limit outcome c.watchdog) := by
  obtain ⟨n, rfl⟩ := Nat.exists_eq_add_of_le' enough
  have waits : (limit : ℕ∞) ≤ timeline.drainedAt :=
    keeps.le_drainedAt open_ fun x member => late ▸ keeps.future x member
  have next : c.next? (start + m.now) = some .cutDrain := by
    rw [draining.next?_eq, late, if_pos le_rfl]
  refine .cut follows (Supervision.finished_eq_false_of_capture open_) next (.done ?_ ?_)
  · simp [Supervision.finished, Control.perform, draining.drainUntil, keeps.taken.finished_cut]
  · refine ⟨ended, rfl, ?_, fun inTime => absurd inTime (not_lt.mpr waits)⟩
    rw [late, min_eq_left (le_max_of_le_right waits)]

/-- **The grace time of the capture.** -/
theorem endsIn_of_draining (draining : c.Draining (start + limit)) (ended : c.outcome? = some outcome)
    (keeps : KeepsUp timeline seen m p) (told : m.told = true) (inTime : m.now ≤ limit)
    (enough : m.upcoming.length + 2 ≤ n) :
    EndsIn platform child describes n ⟨c, p⟩ m
      (EndsDraining timeline m.now limit outcome c.watchdog) := by
  -- Each thing that comes out is a wait of its own; the last wait and the cut come behind them.
  induction n generalizing m seen p with
  | zero => omega
  | succ n ih =>
      cases finished : p.finished with
      | true =>
          obtain ⟨all, texts⟩ := keeps.of_finished finished
          refine .done (by simp [Supervision.finished, draining.drainUntil, finished]) ?_
          refine ⟨ended, rfl, ?_, fun _ => texts⟩
          rw [max_eq_left all, min_eq_right (Nat.cast_le.mpr inTime)]
      | false =>
          have open_ : (Supervision.mk c p).finished = false :=
            Supervision.finished_eq_false_of_capture finished
          rcases Nat.eq_or_lt_of_le inTime with late | early
          · exact endsIn_of_graceOver follows draining ended keeps finished late (by omega)
          · have idle : c.next? (start + m.now) = none := by
              rw [draining.next?_eq, if_neg (by omega)]
            refine .wait follows open_ idle draining.wakeAt_eq ?_ ?_ ?_
            · intro time e more next inTime _
              have onward := keeps.emission next
              have silent : ∀ x ∈ m.upcoming, time ≤ x.1 := by
                rw [next]
                exact List.forall_mem_cons.mpr ⟨le_rfl, onward.future⟩
              rw [next] at enough
              have rest := ih onward told inTime (by simpa using enough)
              refine rest.imp fun s last ends => ends.sooner (keeps.le_drainedAt finished silent) ?_
              exact keeps.future (time, e) (by simp [next])
            · intro time status untold
              simp [told] at untold
            · intro silent _
              have late : max m.now limit = limit := max_eq_right inTime
              rw [late]
              have onward : KeepsUp timeline seen { m with now := limit } p :=
                keeps.pass rfl inTime silent
              have rest := endsIn_of_graceOver follows draining ended onward finished rfl
                (n := n) (by omega)
              exact rest.imp fun s last ends =>
                ends.sooner (keeps.le_drainedAt finished silent) inTime

/-- The watchdog has answered. -/
theorem endsIn_of_answered (collected : c.Collected outcome) (announced : c.announced = true)
    (answered : c.watchdog ≠ .armed) (keeps : KeepsUp timeline seen m p) (told : m.told = true)
    (enough : m.upcoming.length + 3 ≤ n) :
    EndsIn platform child describes n ⟨c, p⟩ m
      (EndsDraining timeline m.now (m.now + drainGrace.nanoseconds) outcome c.watchdog) := by
  obtain ⟨n, rfl⟩ := Nat.exists_eq_add_of_le' (Nat.le_trans (Nat.le_add_left 1 _) enough)
  refine .silent follows (Supervision.finished_eq_false_of_control collected.drainUntil)
    (collected.next?_eq_beginDrain announced answered) rfl ?_
  have draining : (c.perform (start + m.now) .beginDrain).Draining
      (start + (m.now + drainGrace.nanoseconds)) :=
    { collected := by simp [Control.isCollected, Control.perform, collected.child]
      announced := announced
      answered := answered
      drainUntil := by simp [Control.perform, Nat.add_assoc]
      cut := collected.cut }
  have ended : (c.perform (start + m.now) .beginDrain).outcome? = some outcome := by
    simp [Control.outcome?, Control.perform, collected.child]
  exact endsIn_of_draining follows draining ended keeps told (Nat.le_add_right _ _) (by omega)

/-- **From the collection of the child on.**  The waiter announces the end, a watchdog that has not
fired stands down, and the grace time of the capture begins. -/
theorem endsIn_of_collected (collected : c.Collected outcome) (unannounced : c.announced = false)
    (keeps : KeepsUp timeline seen m p) (told : m.told = true)
    (enough : m.upcoming.length + 5 ≤ n) :
    EndsIn platform child describes n ⟨c, p⟩ m
      (EndsDraining timeline m.now (m.now + drainGrace.nanoseconds) outcome
        (if c.watchdog = .armed then .stoodDown else c.watchdog)) := by
  obtain ⟨n, rfl⟩ := Nat.exists_eq_add_of_le' (Nat.le_trans (Nat.le_add_left 2 _) enough)
  refine .silent follows (Supervision.finished_eq_false_of_control collected.drainUntil)
    (collected.next?_eq_announce unannounced) rfl ?_
  have announced : (c.perform (start + m.now) .announce).Collected outcome :=
    ⟨collected.child, collected.drainUntil, collected.cut⟩
  by_cases armed : c.watchdog = .armed
  · rw [if_pos armed]
    refine .silent follows (Supervision.finished_eq_false_of_control announced.drainUntil)
      (Control.next?_eq_standDown rfl armed) rfl ?_
    have stoodDown : ((c.perform (start + m.now) .announce).perform (start + m.now)
        .standDown).Collected outcome :=
      ⟨collected.child, collected.drainUntil, collected.cut⟩
    exact endsIn_of_answered follows stoodDown rfl (by simp [Control.perform]) keeps told (by omega)
  · rw [if_neg armed]
    exact endsIn_of_answered follows announced rfl armed keeps told (by omega)

/-- **From the kill of the watchdog on.**  The child ends at once, long before the last resort. -/
theorem endsIn_of_fired {status : ExitStatus} (running : c.Running) (fired : c.watchdog = .fired)
    (lastResort : c.lastResort = start + limit) (keeps : KeepsUp timeline seen m p)
    (untold : m.told = false) (ending : m.ending = some (m.now, status)) (early : m.now < limit)
    (enough : m.upcoming.length + 6 ≤ n) :
    EndsIn platform child describes n ⟨c, p⟩ m
      (EndsDraining timeline m.now (m.now + drainGrace.nanoseconds) (.ok status) .fired) := by
  induction n generalizing m seen p with
  | zero => omega
  | succ n ih =>
      have exit : m.exit? = some m.now := Moment.exit?_eq_some_iff.mpr ⟨untold, status, ending⟩
      have idle : c.next? (start + m.now) = none :=
        running.next?_eq_none (by omega) fun armed => by simp [fired] at armed
      have wake : c.wakeAt = some (start + limit) := by
        rw [running.wakeAt_of_fired fired, lastResort]
      refine .wait follows (Supervision.finished_eq_false_of_control running.drainUntil) idle wake
        ?_ ?_ ?_
      · intro time e more next _ first
        -- What comes out before the end of the child is seen comes out at this very moment.
        obtain rfl : time = m.now := by
          have now := keeps.future (time, e) (by simp [next])
          have soon := first m.now exit
          omega
        rw [next] at enough
        exact ih (keeps.emission next) untold ending early (by simpa using enough)
      · intro time status' _ ending' _ _
        obtain ⟨rfl, rfl⟩ : m.now = time ∧ status = status' := by simpa [ending] using ending'
        have collected : ({ c with child := .collected (.ok status) } : Control).Collected
            (.ok status) :=
          ⟨rfl, running.drainUntil, running.cut⟩
        have onward : KeepsUp timeline seen { m with told := true } p :=
          keeps.pass rfl le_rfl keeps.future
        have rest := endsIn_of_collected follows collected running.announced onward rfl (n := n)
          (by simpa using by omega)
        simpa [fired] using rest
      · intro _ alive
        have := alive m.now exit
        omega

/-- **The deadline.**  The watchdog kills the child. -/
theorem endsIn_of_deadline (running : c.Running) (armed : c.watchdog = .armed)
    (deadline : c.deadline = start + m.now) (lastResort : c.lastResort = start + limit)
    (early : m.now < limit) (group : c.detached = ownGroup) (keeps : KeepsUp timeline seen m p)
    (untold : m.told = false) (ending : m.ending = timeline.ending)
    (late : (m.now : ℕ∞) < timeline.exitAt) (enough : m.upcoming.length + 7 ≤ n) :
    EndsIn platform child describes n ⟨c, p⟩ m (Concludes timeline m.now) := by
  obtain ⟨n, rfl⟩ := Nat.exists_eq_add_of_le' (Nat.le_trans (Nat.le_add_left 1 _) enough)
  have killed : m.killed = { m with ending := some (m.now, .signal ExitStatus.killSignal) } := by
    simp [Moment.killed, Moment.hasEnded_eq_false ending late]
  refine .fire follows (Supervision.finished_eq_false_of_control running.drainUntil)
    (running.next?_eq_fire armed deadline.le) group untold ?_
  rw [killed]
  have still : (c.perform (start + m.now) .fire).Running :=
    ⟨running.child, running.announced, running.handleUsed, running.drainUntil, running.cut⟩
  have onward : KeepsUp timeline seen
      { m with ending := some (m.now, .signal ExitStatus.killSignal) } p :=
    keeps.pass rfl le_rfl keeps.future
  have rest := endsIn_of_fired follows still rfl lastResort onward untold rfl early
    (Nat.le_of_succ_le_succ enough)
  exact rest.imp fun s last ends => .timedOut late ends

/-- **From the start of the child on.** -/
theorem endsIn_of_running {timeout : Nat} (running : c.Running) (armed : c.watchdog = .armed)
    (deadline : c.deadline = start + timeout) (lastResort : c.lastResort = start + limit)
    (later : timeout < limit) (group : c.detached = ownGroup) (apart : timeline.exitAt ≠ timeout)
    (keeps : KeepsUp timeline seen m p) (untold : m.told = false)
    (ending : m.ending = timeline.ending) (inTime : m.now ≤ timeout)
    (alive : (m.now : ℕ∞) ≤ timeline.exitAt) (enough : m.upcoming.length + 8 ≤ n) :
    EndsIn platform child describes n ⟨c, p⟩ m (Concludes timeline timeout) := by
  -- The deadline may come as the end of a wait, or something may come out at the same moment and be
  -- seen first; in both cases the watchdog acts next.
  induction n generalizing m seen p with
  | zero => omega
  | succ n ih =>
      rcases Nat.eq_or_lt_of_le inTime with rfl | early
      · have late : (m.now : ℕ∞) < timeline.exitAt := lt_of_le_of_ne alive apart.symm
        exact endsIn_of_deadline follows running armed deadline lastResort later group keeps untold
          ending late (by omega)
      · have idle : c.next? (start + m.now) = none :=
          running.next?_eq_none (by omega) fun _ => by omega
        have wake : c.wakeAt = some (start + timeout) := by
          rw [running.wakeAt_of_armed armed (by omega), deadline]
        refine .wait follows (Supervision.finished_eq_false_of_control running.drainUntil) idle wake
          ?_ ?_ ?_
        · intro time e more next inTime first
          have alive : (time : ℕ∞) ≤ timeline.exitAt :=
            (Moment.le_exitAt_iff untold ending).mpr first
          rw [next] at enough
          exact ih (keeps.emission next) untold ending inTime alive (by simpa using enough)
        · intro time status _ exit inTime silent
          have exit : timeline.ending = some (time, status) := ending.symm.trans exit
          have early : time < timeout := by
            refine lt_of_le_of_ne inTime ?_
            rintro rfl
            simp [Timeline.exitAt, exit] at apart
          have collected : ({ c with child := .collected (.ok status) } : Control).Collected
              (.ok status) :=
            ⟨rfl, running.drainUntil, running.cut⟩
          have onward : KeepsUp timeline seen { m with now := time, told := true } p :=
            keeps.pass rfl (by simpa [Timeline.exitAt, exit] using alive) silent
          have rest := endsIn_of_collected follows collected running.announced onward rfl (n := n)
            (by simpa using by omega)
          refine rest.imp fun s last ends => .inTime exit early ?_
          simpa [armed] using ends
        · intro silent first
          have atDeadline : max m.now timeout = timeout := max_eq_right inTime
          rw [atDeadline]
          have alive : (timeout : ℕ∞) ≤ timeline.exitAt :=
            (Moment.le_exitAt_iff untold ending).mpr first
          have late : (timeout : ℕ∞) < timeline.exitAt := lt_of_le_of_ne alive apart.symm
          have onward : KeepsUp timeline seen { m with now := timeout } p :=
            keeps.pass rfl inTime silent
          exact endsIn_of_deadline follows running armed deadline lastResort later group onward untold
            ending late (by simpa using by omega)

end

end Overseer
