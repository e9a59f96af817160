import Overseer.Host.Program

/-!
# The state of a host

A host has a tree of files and a kernel.  The kernel keeps the processes, the files that they have
open, and the pipes between them.  One process is special: the *supervisor*, which starts the others
from outside and reads what they write.  It is not listed; it only has a number, and the signals that
it has been sent.

## Main definitions

* `Process` — a process of the host
* `Kernel`, `World` — the state of a host
* `World.reads`, `World.writes` — whether anybody reads or writes a pipe
* `World.deliver` — what a signal does
* `World.finish` — the end of a process
-/

namespace Overseer.Host

open Overseer.Os

/-- What an open file stands for. -/
inductive Object where
  /-- a file of the tree -/
  | file (id : Nat)
  /-- a directory -/
  | directory (place : Path)
  /-- a special file -/
  | device (d : Device)
  /-- an end of a pipe -/
  | pipeEnd (id : Nat) (writing : Bool)
  /-- bytes that were made up when the file was opened -/
  | report (place : String) (bytes : ByteArray)
  deriving Inhabited

/-- An open file.  Copies of a descriptor share it. -/
structure OpenFile where
  /-- what it stands for -/
  object : Object
  /-- where the next byte is read or written -/
  offset : Nat := 0
  /-- it may be read -/
  readable : Bool := false
  /-- it may be written -/
  writable : Bool := false
  /-- every write goes to the end -/
  append : Bool := false
  deriving Inhabited

/-- A process of the host. -/
structure Process where
  /-- its number -/
  pid : Nat
  /-- the number of its parent -/
  parent : Nat
  /-- the number of its group -/
  group : Nat
  /-- the number of its session -/
  session : Nat := 0
  /-- its name -/
  name : String
  /-- the arguments that it was started with -/
  arguments : List String := []
  /-- what it does from now on -/
  program : Program
  /-- when it can go on -/
  readyAt : Nat
  /-- it goes on only when something has changed -/
  waiting : Bool := false
  /-- when the sleep ends that it has begun -/
  alarm : Option Nat := none
  /-- it has been stopped -/
  stopped : Bool := false
  /-- how it ended, if it has -/
  ending : Option Ending := none
  /-- its descriptors and the open files that they stand for -/
  descriptors : List (Nat × Nat) := []
  /-- the directory that it is in -/
  directory : Path := []
  /-- what it has said about signals -/
  dispositions : List (Signal × Disposition) := []
  /-- signals that it has caught and not yet taken -/
  caught : List Signal := []
  /-- signals that have come while it was stopped -/
  postponed : List Signal := []
  deriving Inhabited

/-- The reading ends that the supervisor holds for a child. -/
structure Tap where
  /-- the child -/
  child : Nat
  /-- the pipe of its standard output, as long as it is read -/
  stdout : Option Nat
  /-- the pipe of its standard error output, as long as it is read -/
  stderr : Option Nat
  /-- the supervisor knows that the child has ended -/
  told : Bool := false
  deriving Inhabited

/-- What the kernel of a host keeps. -/
structure Kernel where
  /-- the time since the clock was started, in nanoseconds -/
  clock : Nat := 0
  /-- the processes, the oldest first -/
  processes : List Process := []
  /-- the open files, by number -/
  openFiles : List (Nat × OpenFile) := []
  /-- what is in each pipe -/
  pipes : List (Nat × ByteArray) := []
  /-- the number of the next process -/
  nextPid : Nat := 4242
  /-- the number of the next open file and the next pipe -/
  nextNumber : Nat := 0
  /-- the supervisor -/
  supervisor : Nat := 4000
  /-- the signals that the supervisor has been sent -/
  received : List Signal := []
  /-- what the supervisor reads -/
  taps : List Tap := []
  /-- the directory that children start in -/
  directory : Path := []
  /-- the environment that children start with -/
  environment : Variables := []
  /-- the programs of the system -/
  loader : Loader := fun _ _ _ => none

instance : Inhabited Kernel := ⟨{}⟩

/-- The state of a host. -/
abbrev World := FileTree × Kernel

/-- A pipe takes so many bytes. -/
def pipeCapacity : Nat := 65536

/-- Writes up to this size go into a pipe in one piece. -/
def atomicWrite : Nat := 4096

/-- The process that takes care of orphans. -/
def init : Nat := 1

namespace Process

/-- The process has not ended. -/
def alive (p : Process) : Bool := p.ending.isNone

/-- What the process has said about a signal. -/
def disposition (p : Process) (signal : Signal) : Disposition :=
  (p.dispositions.lookup signal).getD .standard

/-- The first descriptor from `least` on that is free. -/
def freeDescriptor (p : Process) (least : Nat) : Nat :=
  let rec search : Nat → Nat → Nat
    | 0, n => n
    | tries + 1, n => if (p.descriptors.lookup n).isSome then search tries (n + 1) else n
  search p.descriptors.length least

/-- Makes a descriptor stand for an open file. -/
def setDescriptor (p : Process) (fd file : Nat) : Process :=
  { p with descriptors := (fd, file) :: p.descriptors.filter (·.1 != fd) }

/-- Takes a descriptor away. -/
def dropDescriptor (p : Process) (fd : Nat) : Process :=
  { p with descriptors := p.descriptors.filter (·.1 != fd) }

end Process

namespace World

/-- The files of a host. -/
def files (w : World) : FileTree := w.1

/-- The kernel of a host. -/
def kernel (w : World) : Kernel := w.2

/-- Changes the files. -/
def mapFiles (f : FileTree → FileTree) (w : World) : World := (f w.1, w.2)

/-- Changes the kernel. -/
def mapKernel (f : Kernel → Kernel) (w : World) : World := (w.1, f w.2)

/-- The process of a number. -/
def process? (w : World) (pid : Nat) : Option Process := w.2.processes.find? (·.pid == pid)

/-- Changes a process. -/
def update (pid : Nat) (f : Process → Process) : World → World :=
  mapKernel fun k =>
    { k with processes := k.processes.map fun p => if p.pid == pid then f p else p }

/-- Takes a process out of the list. -/
def forget (pid : Nat) : World → World :=
  mapKernel fun k => { k with processes := k.processes.filter (·.pid != pid) }

/-- Lets every process that waits for a change look again. -/
def wakeAll : World → World :=
  mapKernel fun k =>
    { k with processes := k.processes.map fun p =>
        if p.waiting then { p with waiting := false, readyAt := max p.readyAt k.clock } else p }

/-- The open file of a number. -/
def openFile? (w : World) (number : Nat) : Option OpenFile := w.2.openFiles.lookup number

/-- The open file that a descriptor of a process stands for. -/
def descriptor? (w : World) (p : Process) (fd : Nat) : Option (Nat × OpenFile) := do
  let number ← p.descriptors.lookup fd
  let file ← w.openFile? number
  some (number, file)

/-- Changes an open file. -/
def updateOpen (number : Nat) (f : OpenFile → OpenFile) : World → World :=
  mapKernel fun k =>
    { k with openFiles := k.openFiles.map fun (n, o) => if n == number then (n, f o) else (n, o) }

/-- Adds an open file, and gives its number. -/
def addOpen (file : OpenFile) (w : World) : Nat × World :=
  (w.2.nextNumber, w.mapKernel fun k =>
    { k with openFiles := (k.nextNumber, file) :: k.openFiles, nextNumber := k.nextNumber + 1 })

/-- Adds an empty pipe, and gives its number. -/
def addPipe (w : World) : Nat × World :=
  (w.2.nextNumber, w.mapKernel fun k =>
    { k with pipes := (k.nextNumber, .empty) :: k.pipes, nextNumber := k.nextNumber + 1 })

/-- What is in a pipe. -/
def pipeBytes (w : World) (pipe : Nat) : ByteArray := (w.2.pipes.lookup pipe).getD .empty

/-- Changes what is in a pipe. -/
def updatePipe (pipe : Nat) (f : ByteArray → ByteArray) : World → World :=
  mapKernel fun k =>
    { k with pipes := k.pipes.map fun (n, b) => if n == pipe then (n, f b) else (n, b) }

/-- Some process has a file open that satisfies a condition. -/
def someoneHas (w : World) (condition : Object → Bool) : Bool :=
  w.2.processes.any fun p => p.descriptors.any fun (_, number) =>
    match w.openFile? number with
    | some file => condition file.object
    | none => false

/-- The supervisor reads a pipe. -/
def tapped (w : World) (pipe : Nat) : Bool :=
  w.2.taps.any fun t => t.stdout == some pipe || t.stderr == some pipe

/-- Somebody may read a pipe. -/
def reads (w : World) (pipe : Nat) : Bool :=
  w.tapped pipe || w.someoneHas fun
    | .pipeEnd id writing => id == pipe && !writing
    | _ => false

/-- Somebody may write into a pipe. -/
def writes (w : World) (pipe : Nat) : Bool :=
  w.someoneHas fun
    | .pipeEnd id writing => id == pipe && writing
    | _ => false

/-- Forgets open files that nobody has, and pipes that nobody reads or writes. -/
def sweepOpen (w : World) : World :=
  let used := w.2.processes.flatMap fun p => p.descriptors.map (·.2)
  let w := w.mapKernel fun k => { k with openFiles := k.openFiles.filter (used.contains ·.1) }
  w.mapKernel fun k => { k with pipes := k.pipes.filter fun (n, _) => w.reads n || w.writes n }

/-- The children of a process. -/
def childrenOf (w : World) (pid : Nat) : List Process :=
  w.2.processes.filter (·.parent == pid)

/-- Tells a process that has caught a signal. -/
def catchSignal (signal : Signal) (now : Nat) (p : Process) : Process :=
  { p with
    caught := p.caught ++ [signal], waiting := false
    readyAt := if p.waiting || p.alarm.isSome then now else p.readyAt }

/-- The children of a process that is gone belong to `init`, which collects those that
have ended. -/
def orphan (pid : Nat) : World → World :=
  mapKernel fun k =>
    let processes := k.processes.map fun p =>
      if p.parent == pid then { p with parent := init } else p
    { k with processes := processes.filter fun p => p.alive || p.parent != init }

/-- Ends a process.  Its parent is told, and may collect it. -/
def finish (pid : Nat) (ending : Ending) (w : World) : World :=
  match w.process? pid with
  | none => w
  | some p =>
    let w := w.update pid fun p =>
      { p with ending := some ending, descriptors := [], waiting := false, stopped := false }
    let w := w.orphan pid
    let w := match w.process? p.parent with
      | none => if p.parent == init then w.forget pid else w
      | some parent =>
        match parent.disposition Signal.child with
        | .standard => w
        | .ignored => w.forget pid
        | .caught => w.update parent.pid (catchSignal Signal.child w.2.clock)
    w.sweepOpen.wakeAll

/-- Makes a stopped process go on. -/
def resume (now : Nat) (p : Process) : Process :=
  { p with stopped := false, readyAt := max p.readyAt now }

/-- Does to a process what a signal does to it. -/
def deliver (pid : Nat) (signal : Signal) (w : World) : World :=
  match w.process? pid with
  | none => w
  | some p =>
    let now := w.2.clock
    if !p.alive then w
    else if signal = Signal.kill then w.finish pid (.killed signal)
    else if signal = Signal.stop then w.update pid fun p => { p with stopped := true }
    else if p.stopped ∧ signal ≠ Signal.cont then
      w.update pid fun p => { p with postponed := p.postponed ++ [signal] }
    else
      let w := if signal = Signal.cont then w.update pid (resume now) else w
      match p.disposition signal with
      | .ignored => w
      | .caught => w.update pid (catchSignal signal now)
      | .standard =>
        match defaultAction signal with
        | .terminate => w.finish pid (.killed signal)
        | .stop => w.update pid fun p => { p with stopped := true }
        | .ignore | .resume => w

/-- Sends a signal to a process, or to the supervisor.  When it makes a process go on, what has come in
the meantime is delivered, too. -/
def signal (pid : Nat) (sig : Signal) (w : World) : World :=
  let w := w.deliver pid sig
  if pid = w.2.supervisor then w.mapKernel fun k => { k with received := k.received ++ [sig] }
  else if sig = Signal.cont then
    match w.process? pid with
    | none => w
    | some p =>
      let w := w.update pid fun p => { p with postponed := [] }
      p.postponed.foldl (fun w s => w.deliver pid s) w
  else w

/-- The processes that the first argument of the system call `kill` stands for, when `caller` makes
the call from its group.  The supervisor leads a group of its own. -/
def addressees (w : World) (caller group : Nat) (target : Int) : List Nat :=
  let own := w.2.supervisor
  let all := w.2.processes.map (fun p => (p.pid, p.group)) ++ [(own, own)]
  let chosen := all.filter fun (pid, its) =>
    if 0 < target then pid == target.toNat
    else if target = 0 then its == group
    else if target = -1 then pid != caller
    else its == target.natAbs
  chosen.map (·.1)

/-- The system call `kill`.  A process that calls it on its own group is hit last. -/
def killCall (caller group : Nat) (target : Int) (sig : Signal) (w : World) :
    Except Errno Unit × World :=
  if maxSignal < sig then (.error .invalidArgument, w)
  else match w.addressees caller group target with
    | [] => (.error .noProcess, w)
    | pids =>
      if sig = 0 then (.ok (), w)
      else
        let others := pids.filter (· != caller)
        let own := pids.filter (· == caller)
        (.ok (), (others ++ own).foldl (fun w pid => w.signal pid sig) w)

end World

end Overseer.Host
