import Overseer.Host.Calls

/-!
# Running a host

The processes of a host take turns: the next step is always made by the process that can go on
first, of several such by the oldest.  The clock moves on to the time of that step.

## Main definitions

* `World.next?` — the process that goes on next
* `World.step` — its next step
* `World.run` — runs a host until something is to be seen, or up to a time
-/

namespace Overseer.Host

open Overseer.Os

namespace World

/-- The process can go on without anybody else. -/
def canGoOn (p : Process) : Bool := p.alive && !p.stopped && !p.waiting

/-- The process that goes on next. -/
def next? (w : World) : Option Process :=
  w.2.processes.foldl (fun best p =>
    if !canGoOn p then best
    else match best with
      | none => some p
      | some b => if p.readyAt < b.readyAt then some p else best) none

/-- Splits a process. -/
def splitProcess (p : Process) (child : Program) (next : Nat → Program) (w : World) : World :=
  let now := w.2.clock
  w.mapKernel fun k =>
    let pid := k.nextPid
    let parent := { p with program := next pid, readyAt := now + forkCost }
    let child := { p with
      pid, parent := p.pid, program := child, readyAt := now + forkCost + simpleCost, caught := [] }
    { k with
      nextPid := pid + 1
      processes := k.processes.map (fun q => if q.pid == p.pid then parent else q) ++ [child] }

/-- The next step of a process. -/
def step (p : Process) (w : World) : World :=
  let now := w.2.clock
  match p.program with
  | .exit code => w.finish p.pid (.exited (code % 256))
  | .fork child next => w.splitProcess p child next
  | .call c next =>
    match w.perform p c with
    | (.reply answer cost, w) =>
      let w := w.update p.pid fun p => { p with program := next answer, readyAt := now + cost }
      if wakes c then w.wakeAll else w
    | (.wait, w) => w.update p.pid fun p => { p with waiting := true }
    | (.waitUntil time, w) => w.update p.pid fun p => { p with readyAt := time }
    | (.over, w) => w

/-- Moves the clock on. -/
def setClock (time : Nat) : World → World :=
  mapKernel fun k => { k with clock := max k.clock time }

/-- Runs a host until `look` finds something, or up to a time, or for so many steps. -/
def run {α : Type} (look : World → Option (α × World)) (limit : Option Nat) :
    Nat → World → Option α × World
  | 0, w => (none, w)
  | steps + 1, w =>
    match look w with
    | some (a, w) => (some a, w)
    | none =>
      match w.next?, limit with
      | none, none => (none, w)
      | none, some time => (none, w.setClock time)
      | some p, none => run look limit steps ((w.setClock p.readyAt).step p)
      | some p, some time =>
        if time ≤ p.readyAt then (none, w.setClock time)
        else run look limit steps ((w.setClock p.readyAt).step p)

/-- So many steps are made at most while somebody waits, far more than a wait can last. -/
def runBound : Nat := 1099511627776

end World

end Overseer.Host
