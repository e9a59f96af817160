import Overseer.Host.Scheduler
import Overseer.Processes.Kill
import Overseer.Processes.Reaper
import Overseer.Supervision.Platform

/-!
# A host as a platform

What the supervisor asks of the system, answered by a host: children are processes of the host, and
the supervisor holds the reading ends of the pipes that they write into.

## Main definitions

* `World.launch` — starts a child
* `World.news?` — what is to be seen of a child
* `platform` — a host as a platform
* `processTable` — the processes of a host as a process table
* `processorReport` — what the system counts
-/

namespace Overseer.Host

open Overseer.Os Overseer.Processes Overseer.Text Overseer.Time

/-- The variable with the directories that programs are searched in. -/
def pathVariable : String := "PATH"

/-- The directories that programs are searched in where the variable is missing. -/
def defaultPath : String := "/bin:/usr/bin"

/-- The path texts under which a program name is searched, in order. -/
def searchPaths (path name : String) : List String :=
  if name.toList.contains '/' then [name]
  else (path.toList.splitOn ':').map fun dir =>
    if dir.isEmpty then "./" ++ name else String.ofList dir ++ "/" ++ name

/-- The first success in a search.  A place where nothing is found is passed over; a place that may
not be used is remembered, and any other failure ends the search. -/
def searchFor {α β : Type} (attempt : α → Except Errno β) :
    (sofar : Errno) → List α → Except Errno β
  | sofar, [] => .error sofar
  | sofar, place :: rest =>
    match attempt place with
    | .ok b => .ok b
    | .error .noEntry | .error .notDirectory => searchFor attempt sofar rest
    | .error .denied => searchFor attempt .denied rest
    | .error e => .error e

namespace World

/-- Starts a child of the supervisor. -/
def launch (l : Launch) (w : World) : Except OsError Pid × World :=
  if l.hasZero then (.error .zeroByte, w)
  else
    let name := octetsOf l.program
    let arguments := name :: l.arguments.map octetsOf
    let environment := w.2.environment
    let path := (environment.lookup pathVariable).getD defaultPath
    let attempt (place : String) : Except Errno (String × Program) :=
      (w.loadProgram w.2.directory place arguments environment).map fun program => (place, program)
    let places := if name.isEmpty then [] else searchPaths path name
    let found := match places with
      | [place] => attempt place
      | _ => searchFor attempt .noEntry places
    match found with
    | .error e => (.error (.ofErrno e), w)
    | .ok (place, program) =>
      let (out, w) := w.addPipe
      let (err, w) := w.addPipe
      let (empty, w) := w.addOpen { object := .device .null, readable := true }
      let (outEnd, w) := w.addOpen { object := .pipeEnd out true, writable := true }
      let (errEnd, w) := w.addOpen { object := .pipeEnd err true, writable := true }
      let pid := w.2.nextPid
      let child : Process := {
        pid, parent := w.2.supervisor
        group := if l.ownGroup then pid else w.2.supervisor
        session := w.2.supervisor
        arguments, name := String.ofList ((baseName place).toList.take maxProcessName)
        program, readyAt := w.2.clock + becomeCost
        descriptors := [(0, empty), (1, outEnd), (2, errEnd)]
        directory := w.2.directory }
      (.ok (UInt32.ofNat pid), w.mapKernel fun k =>
        { k with
          nextPid := pid + 1
          processes := k.processes ++ [child]
          taps := { child := pid, stdout := some out, stderr := some err } :: k.taps })

/-- Changes what the supervisor holds for a child. -/
def updateTap (child : Nat) (f : Tap → Tap) : World → World :=
  mapKernel fun k => { k with taps := k.taps.map fun t => if t.child == child then f t else t }

/-- Stops reading a stream of a child. -/
def hangUp (child : Nat) (stream : Stream) (w : World) : World :=
  let w := w.updateTap child fun t =>
    match stream with
    | .stdout => { t with stdout := none }
    | .stderr => { t with stderr := none }
  w.sweepOpen.wakeAll

/-- What is to be seen of a stream. -/
def streamNews? (child : Nat) (stream : Stream) (pipe : Option Nat) (w : World) :
    Option (News × World) := do
  let pipe ← pipe
  let bytes := w.pipeBytes pipe
  if !bytes.isEmpty then
    some (.output stream bytes, (w.updatePipe pipe fun _ => .empty).wakeAll)
  else if w.writes pipe then none
  else some (.ended stream, w.hangUp child stream)

/-- The child has ended, and the supervisor does not know. -/
def exitNews? (child : Nat) (told : Bool) (w : World) : Option (News × World) := do
  if told then none
  let p ← w.process? child
  let _ ← p.ending
  some (.exited, w.updateTap child fun t => { t with told := true })

/-- What is to be seen of a child. -/
def news? (child : Nat) (w : World) : Option (News × World) := do
  let tap ← w.2.taps.find? (·.child == child)
  (w.streamNews? child .stdout tap.stdout).orElse fun _ =>
    (w.streamNews? child .stderr tap.stderr).orElse fun _ => w.exitNews? child tap.told

/-- Waits for news of a child. -/
def await (child : Nat) (limit : Option Nat) (w : World) : News × World :=
  let (news, w) := run (news? child) limit runBound w
  (news.getD .quiet, w)

/-- How a process of the host ended, as the supervisor sees it. -/
def exitStatus : Ending → ExitStatus
  | .exited code => .code (Int32.ofNat code)
  | .killed signal => .signal (Int32.ofNat signal)

/-- Collects a child of the supervisor. -/
def collect (child : Nat) (w : World) : Except OsError ExitStatus × World :=
  match w.process? child with
  | some { ending := some ending, .. } => (.ok (exitStatus ending), w.forget child)
  | _ => (.error (.ofErrno .noChild), w)

/-- The supervisor sends the killing signal. -/
def killFromOutside (target : Int) (w : World) : Except Errno Unit × World :=
  let (answer, w) := w.killCall w.2.supervisor w.2.supervisor target Signal.kill
  (answer, w.wakeAll)

/-- Lets a child of the supervisor go. -/
def release (child : Nat) (w : World) : World :=
  let w := match w.process? child with
    | some _ => (w.signal child Signal.kill).forget child
    | none => w
  let w := w.mapKernel fun k => { k with taps := k.taps.filter (·.child != child) }
  w.sweepOpen.wakeAll

/-- Lets time pass. -/
def pass (time : Nat) (w : World) : World :=
  (run (fun _ => (none : Option (Unit × World))) (some time) runBound w).2

end World

/-- The time of day at which the clock of a host starts. -/
def clockStart : Int := 1700000000

/-- The time of day. -/
def timeOfDay (w : World) : Timestamp :=
  .ofRegular (clockStart + (w.2.clock / nanosPerSecond : Nat)) (w.2.clock % nanosPerSecond)
    (Nat.mod_lt _ (by decide))

/-- A host as a platform. -/
def platform : Platform World where
  clock w := (w.2.clock, w)
  timeOfDay w := (timeOfDay w, w)
  launch := World.launch
  await child limit := World.await child.toNat limit
  collect child := World.collect child.toNat
  kill := World.killFromOutside
  hangUp child stream w := ((), w.hangUp child.toNat stream)
  release child w := ((), w.release child.toNat)

/-- The name of the supervisor as a process. -/
def supervisorName : String := "overseer"

/-- The processes of a host that have a text for a name, the supervisor among them. -/
def records (w : World) : List ProcessRecord :=
  ⟨UInt32.ofNat w.2.supervisor, supervisorName⟩ :: w.2.processes.filterMap fun p =>
    (osText p.name).toString?.map fun name => ⟨UInt32.ofNat p.pid, name⟩

/-- The processes of a host as a process table whose processes are killed through the system. -/
def processTable : ProcessTable World where
  snapshot w := (.ok (records w), w)
  kill := forceKill World.killFromOutside

/-- The time between two counts of the system. -/
def tickTime : Nat := 10000000

/-- What the system counts: all of its time has been idle. -/
def processorReport (w : World) : String :=
  "cpu  0 0 0 " ++ toString (w.2.clock / tickTime) ++ " 0 0 0 0\n"

end Overseer.Host
