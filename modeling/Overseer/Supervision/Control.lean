import Overseer.Command.Spec
import Overseer.Supervision.Platform

/-!
# The control of a supervised command

While a command runs, four parties act on it without waiting for each other: the child itself, the
*waiter*, which collects the child when it has ended and then announces that, the *watchdog*, which
kills the child when the deadline passes before the announcement, and the waiter's own last resort,
which kills the child through its handle when even the watchdog has not ended it.  When the watchdog
has given its answer, the capture of the output gets a grace time, after which it is cut short.

The parties are a machine whose *events* are their smallest steps.  Between the collection of the
child and the announcement, and also behind it as long as the watchdog has not noticed, the deadline
may pass: all such runs are runs of this machine.  `Control.next?` chooses the run in which every
party acts as soon as it can.

## Main definitions

* `killGrace`, `drainGrace` — the two grace times
* `Control` — the state of the parties
* `Event`, `Control.react?` — their steps, with the effects that these have
* `Control.next?` — the next step of the prompt run
* `Control.wakeAt` — until when the parties wait if nothing happens
-/

namespace Overseer

open Overseer.Os Overseer.Time

/-- The time that the watchdog's kill has to work before the child is killed through its handle. -/
def killGrace : Duration := .ofSecs 5

/-- The time that the capture may go on when the child has ended: a descendant may keep the streams
open for ever. -/
def drainGrace : Duration := .ofSecs 2

/-- How far the child is. -/
inductive ChildPhase where
  /-- it runs -/
  | running
  /-- it has ended and waits to be collected; its number is still its own -/
  | ended
  /-- it has been collected, or collecting it has failed -/
  | collected (outcome : Except OsError ExitStatus)
  deriving Inhabited

/-- How far the watchdog is. -/
inductive Watchdog where
  /-- it waits for the announcement and for the deadline -/
  | armed
  /-- the deadline came first: it has killed the child -/
  | fired
  /-- the announcement came first -/
  | stoodDown
  deriving DecidableEq, Repr, Inhabited

/-- The state of the parties.  All times are on one clock. -/
structure Control where
  /-- when the watchdog kills the child -/
  deadline : Nat
  /-- when the child is killed through its handle -/
  lastResort : Nat
  /-- the watchdog kills the whole group of the child -/
  detached : Bool
  /-- how far the child is -/
  child : ChildPhase := .running
  /-- the end of the child has been announced -/
  announced : Bool := false
  /-- how far the watchdog is -/
  watchdog : Watchdog := .armed
  /-- the child has been killed through its handle -/
  handleUsed : Bool := false
  /-- when the grace time of the capture ends, once it has begun -/
  drainUntil : Option Nat := none
  /-- the capture has been cut short -/
  cut : Bool := false
  deriving Inhabited

/-- The steps of the parties. -/
inductive Event where
  /-- the child ends -/
  | exit
  /-- the waiter collects the child -/
  | collect (outcome : Except OsError ExitStatus)
  /-- the waiter announces the end of the child -/
  | announce
  /-- the watchdog finds the deadline passed -/
  | fire
  /-- the watchdog finds the announcement -/
  | standDown
  /-- the waiter finds that even the watchdog's kill has not ended the child -/
  | useHandle
  /-- the watchdog's answer is in: the grace time of the capture begins -/
  | beginDrain
  /-- the grace time of the capture is over -/
  | cutDrain
  deriving Inhabited

/-- What a step does to the world outside. -/
inductive Effect where
  /-- kills the child by its number -/
  | killChild
  /-- kills the group of the child by its number -/
  | killGroup
  /-- kills the child through its handle, which knows whether it has been collected -/
  | killHandle
  /-- cuts the capture short -/
  | cutCapture
  deriving DecidableEq, Repr, Inhabited

namespace Control

/-- The child has been collected, or collecting it has failed. -/
def isCollected (c : Control) : Bool :=
  match c.child with
  | .collected _ => true
  | _ => false

/-- The outcome of collecting the child, once there is one. -/
def outcome? (c : Control) : Option (Except OsError ExitStatus) :=
  match c.child with
  | .collected outcome => some outcome
  | _ => none

/-- The deadline passed and a kill was issued. -/
def timedOut (c : Control) : Bool := c.watchdog == .fired

/-- Whether a step is possible at a time. -/
def enabled (now : Nat) (c : Control) : Event → Bool
  | .exit => match c.child with
    | .running => true
    | _ => false
  | .collect _ => match c.child with
    | .ended => true
    | _ => false
  | .announce => c.isCollected && !c.announced
  | .fire => c.watchdog == .armed && decide (c.deadline ≤ now)
  | .standDown => c.watchdog == .armed && c.announced
  | .useHandle => !c.isCollected && !c.handleUsed && decide (c.lastResort ≤ now)
  | .beginDrain => c.announced && c.watchdog != .armed && c.drainUntil.isNone
  | .cutDrain => match c.drainUntil with
    | some time => !c.cut && decide (time ≤ now)
    | none => false

/-- The state behind a step. -/
def perform (now : Nat) (c : Control) : Event → Control
  | .exit => { c with child := .ended }
  | .collect outcome => { c with child := .collected outcome }
  | .announce => { c with announced := true }
  | .fire => { c with watchdog := .fired }
  | .standDown => { c with watchdog := .stoodDown }
  | .useHandle => { c with handleUsed := true }
  | .beginDrain => { c with drainUntil := some (now + drainGrace.nanoseconds) }
  | .cutDrain => { c with cut := true }

/-- What a step does outside. -/
def effect? (c : Control) : Event → Option Effect
  | .fire => some (if c.detached then .killGroup else .killChild)
  | .useHandle => some .killHandle
  | .cutDrain => some .cutCapture
  | _ => none

/-- Takes a step, if it is possible at that time. -/
def react? (now : Nat) (c : Control) (e : Event) : Option (Control × Option Effect) :=
  if c.enabled now e then some (c.perform now e, c.effect? e) else none

/-- The next step of the run in which every party acts as soon as it can and the end of the child
comes before the deadline of the same moment. -/
def next? (now : Nat) (c : Control) : Option Event :=
  [.announce, .standDown, .fire, .useHandle, .beginDrain, .cutDrain].find? (c.enabled now)

/-- The earlier of two times, of which both may be missing. -/
def earlier? : Option Nat → Option Nat → Option Nat
  | none, b => b
  | a, none => a
  | some a, some b => some (min a b)

/-- The time up to which the parties wait if nothing happens. -/
def wakeAt (c : Control) : Option Nat :=
  let watchdog := if c.watchdog == .armed then some c.deadline else none
  let waiter := if c.isCollected || c.handleUsed then none else some c.lastResort
  let drain := if c.cut then none else c.drainUntil
  earlier? watchdog (earlier? waiter drain)

end Control

end Overseer
