import Overseer.Host.Kernel

/-!
# What the calls of programs do

Each call of a process changes the state of the host and has one of three outcomes: it answers, it
has to wait, or the process does not go on at all, because it has ended or become another program.

Every answer takes time.  The times are such that a process that does more takes longer; nothing
else depends on them.

## Main definitions

* `Outcome` — what comes of a call
* `World.perform` — what a call does
* `World.become` — how a process becomes another program
-/

namespace Overseer.Host

open Overseer.Os

/-- What comes of a call. -/
inductive Outcome (α : Type) where
  /-- it answers, after so many nanoseconds -/
  | reply (answer : α) (cost : Nat)
  /-- it has to be made again when something has changed -/
  | wait
  /-- it has to be made again at a time -/
  | waitUntil (time : Nat)
  /-- the process does not go on -/
  | over
  deriving Inhabited

/-- The time that a simple call takes. -/
def simpleCost : Nat := 1000

/-- The time that a look at the file tree takes. -/
def lookupCost : Nat := 3000

/-- The time that it takes to become another program. -/
def becomeCost : Nat := 400000

/-- The time that it takes to split. -/
def forkCost : Nat := 150000

/-- The time that moving bytes takes. -/
def transferCost (count : Nat) : Nat := 2000 + count / 4

/-- An argument takes at most so many bytes, its end mark included. -/
def maxArgument : Nat := 131072

/-- All arguments and variables together take at most so many bytes. -/
def maxArguments : Nat := 2097152

/-- The longest name that a process has. -/
def maxProcessName : Nat := 15

/-- The bytes that arguments and variables take. -/
def argumentSizes (arguments : List String) (environment : Variables) : List Nat :=
  arguments.map (·.length + 1) ++
    environment.map fun (name, value) => name.length + value.length + 2

/-- Whether arguments and variables are too much for a program. -/
def tooMuch (arguments : List String) (environment : Variables) : Bool :=
  let sizes := argumentSizes arguments environment
  sizes.any (maxArgument < ·) || maxArguments < sizes.foldl (· + · + 8) 0

/-- What a program file begins with. -/
def programBytes : ByteArray := ⟨#[0x7f, 0x45, 0x4c, 0x46, 2, 1, 1, 0]⟩

/-- The first line of a script that names its interpreter: the interpreter, and its argument if
there is one. -/
def interpreterLine? (bytes : ByteArray) : Option (String × List String) :=
  match (octets (bytes.extract 0 256)).toList with
  | '#' :: '!' :: rest =>
    let blank (c : Char) : Bool := c == ' ' || c == '\t'
    let line := (rest.takeWhile (· != '\n')).dropWhile blank
    let name := line.takeWhile fun c => !blank c
    let argument := ((line.dropWhile fun c => !blank c).dropWhile blank).reverse.dropWhile blank
    if name.isEmpty then none
    else some (String.ofList name,
      if argument.isEmpty then [] else [String.ofList argument.reverse])
  | _ => none

namespace World

/-- A descriptor that a path stands for by its name. -/
def descriptorPath? (path : String) : Option Nat :=
  match path with
  | "/dev/stdin" => some 0
  | "/dev/stdout" => some 1
  | "/dev/stderr" => some 2
  | _ =>
    let number (stem : String) : Option Nat :=
      if path.startsWith stem then (String.ofList (path.toList.drop stem.length)).toNat? else none
    (number "/dev/fd/").orElse fun _ => number "/proc/self/fd/"

/-- The file that describes a process. -/
def statReport (p : Process) : String :=
  let state :=
    if !p.alive then "Z" else if p.stopped then "T" else if p.alarm.isSome then "S" else "R"
  let fields := [toString p.parent, toString p.group, toString p.session, "0", "-1", "4194304"] ++
    List.replicate 11 "0" ++ ["20", "0", "1", "0", "100"] ++ List.replicate 29 "0"
  toString p.pid ++ " (" ++ p.name ++ ") " ++ state ++ " " ++ " ".intercalate fields ++ "\n"

/-- The bytes of a file that the system makes up about a process. -/
def report? (w : World) (self : Nat) (path : String) : Option ByteArray :=
  match FileTree.splitPath path with
  | ["", "proc", who, what] => do
    let pid ← if who = "self" then some self else who.toNat?
    let p ← w.process? pid
    match what with
    | "stat" => some (bytesOf (statReport p))
    | "comm" => some (bytesOf (p.name ++ "\n"))
    | "cmdline" => some (bytesOf (String.join (p.arguments.map (· ++ "\x00"))))
    | _ => none
  | _ => none

/-- What a node of the file tree is. -/
def identityOf (place : Path) : Node → FileIdentity
  | .directory => .directory place
  | .file id => .file id
  | .link _ => .link place
  | .device d => .device d
  | .program name => .program name

/-- What the system says about a node of the file tree. -/
def nodeStatus (files : FileTree) (place : Path) (node : Node) : FileStatus :=
  let identity := identityOf place node
  match node with
  | .file id =>
    { identity, size := (files.contents id).bytes.size, mode := (files.contents id).mode }
  | .directory => { identity, size := 4096, mode := 0o755 }
  | .link target => { identity, size := target.length, mode := 0o777 }
  | .device _ => { identity, mode := 0o666 }
  | .program _ => { identity, size := programBytes.size, mode := 0o755 }

/-- What an open file is. -/
def openStatus (files : FileTree) (file : OpenFile) : FileStatus :=
  match file.object with
  | .file id =>
    { identity := .file id, size := (files.contents id).bytes.size
      mode := (files.contents id).mode }
  | .directory place => { identity := .directory place, size := 4096, mode := 0o755 }
  | .device d => { identity := .device d, mode := 0o666 }
  | .pipeEnd id _ => { identity := .pipe id, mode := 0o600 }
  | .report place _ => { identity := .report place }

/-! ## Becoming another program -/

/-- What a path stands for when it is to be executed: a program of the system, or a script with the
path of its interpreter, its name, and the arguments before its own. -/
inductive Executable where
  | program (name : String)
  | script (interpreter : String) (arguments : List String)
  deriving Inhabited

/-- Looks up what is to be executed. -/
def executable (files : FileTree) (directory : Path) (path : String) :
    Except Errno Executable := do
  let (_, node) ← files.find directory path true
  match node with
  | .program name => .ok (.program name)
  | .file id =>
    let contents := files.contents id
    if contents.mode &&& 0o111 = 0 then .error .denied
    else match interpreterLine? contents.bytes with
      | some (interpreter, argument) => .ok (.script interpreter argument)
      | none => .error .notExecutable
  | _ => .error .denied

/-- The name of the program of the system that a path stands for, and its arguments.  A script is
run by its interpreter, which may be a script again, `depth` times at most. -/
def resolveProgram (files : FileTree) (directory : Path) :
    (depth : Nat) → (path : String) → List String → Except Errno (String × List String)
  | 0, _, _ => .error .linkLoop
  | depth + 1, path, arguments => do
    match ← executable files directory path with
    | .program name => .ok (name, arguments)
    | .script interpreter argument =>
      resolveProgram files directory depth interpreter
        (interpreter :: argument ++ path :: arguments.drop 1)

/-- The last name in a path text. -/
def baseName (path : String) : String :=
  ((FileTree.splitPath path).getLast?).getD ""

/-- The program that a path stands for. -/
def loadProgram (w : World) (directory : Path) (path : String) (arguments : List String)
    (environment : Variables) : Except Errno Program := do
  if tooMuch arguments environment then throw .tooBig
  let (name, arguments) ← resolveProgram w.1 directory 5 path arguments
  match w.2.loader name arguments environment with
  | some program => return program
  | none => throw .notExecutable

/-- Makes a process go on as another program.  Descriptors from 10 on are the program's own and are
closed; signals that were caught are no longer. -/
def replaceProgram (pid : Nat) (path : String) (arguments : List String) (program : Program)
    (w : World) : World :=
  let w := w.update pid fun p =>
    { p with
      program, arguments
      name := String.ofList ((baseName path).toList.take maxProcessName)
      readyAt := w.2.clock + becomeCost
      descriptors := p.descriptors.filter (·.1 < 10)
      dispositions := p.dispositions.filter (·.2 != .caught)
      caught := [] }
  w.sweepOpen.wakeAll

/-! ## Files -/

/-- Opens a file for a process, and gives the open file. -/
def openNode (p : Process) (path : String) (flags : OpenFlags) (w : World) :
    Except Errno (OpenFile × World) := do
  let file (object : Object) : OpenFile :=
    { object, readable := flags.read, writable := flags.write, append := flags.append }
  let place ← w.1.resolve p.directory path true
  match w.1.node? place with
  | none =>
    if !flags.create then throw .noEntry
    let (_, id, files) ← w.1.createFile p.directory path 0o644
    return (file (.file id), files, w.2)
  | some node =>
    if flags.create ∧ flags.exclusive then throw .alreadyThere
    match node with
    | .directory =>
      if flags.write then throw .isDirectory
      return (file (.directory place), w)
    | .file id =>
      let w := if flags.truncate then w.mapFiles (·.truncate id) else w
      return (file (.file id), w)
    | .device d => return (file (.device d), w)
    | .program name =>
      if flags.write then throw .denied
      return (file (.report name programBytes), w)
    | .link _ => throw .linkLoop

/-- Opens a file for a process, and gives its descriptor. -/
def openCall (p : Process) (path : String) (flags : OpenFlags) (w : World) :
    Except Errno Nat × World :=
  let give (number : Nat) (w : World) : Except Errno Nat × World :=
    let fd := p.freeDescriptor 0
    (.ok fd, w.update p.pid (·.setDescriptor fd number))
  match descriptorPath? path with
  | some fd =>
    match p.descriptors.lookup fd with
    | some number => give number w
    | none => (.error .noEntry, w)
  | none =>
    match w.report? p.pid path with
    | some bytes =>
      if flags.write then (.error .denied, w)
      else
        let (number, w) := w.addOpen { object := .report path bytes, readable := true }
        give number w
    | none =>
      match w.openNode p path flags with
      | .error e => (.error e, w)
      | .ok (file, w) =>
        let (number, w) := w.addOpen file
        give number w

/-- Bytes of an array from an offset on, at most so many. -/
def portion (bytes : ByteArray) (offset limit : Nat) : ByteArray :=
  bytes.extract offset (offset + limit)

/-- Reads from an open file. -/
def readCall (number : Nat) (file : OpenFile) (limit : Nat) (w : World) :
    Outcome (Except Errno ByteArray) × World :=
  let give (bytes : ByteArray) (w : World) : Outcome (Except Errno ByteArray) × World :=
    (.reply (.ok bytes) (transferCost bytes.size), w)
  let advance (bytes : ByteArray) : Outcome (Except Errno ByteArray) × World :=
    give bytes (w.updateOpen number fun o => { o with offset := o.offset + bytes.size })
  if !file.readable then (.reply (.error .badDescriptor) simpleCost, w)
  else match file.object with
    | .file id => advance (portion (w.1.contents id).bytes file.offset limit)
    | .report _ bytes => advance (portion bytes file.offset limit)
    | .directory _ => (.reply (.error .isDirectory) simpleCost, w)
    | .device .null => give .empty w
    | .device _ => give ⟨Array.replicate limit 0⟩ w
    | .pipeEnd id _ =>
      let bytes := w.pipeBytes id
      if limit = 0 then give .empty w
      else if !bytes.isEmpty then
        give (bytes.extract 0 limit) (w.updatePipe id fun b => b.extract limit b.size)
      else if w.writes id then (.wait, w)
      else give .empty w

/-- Writes to an open file. -/
def writeCall (p : Process) (number : Nat) (file : OpenFile) (bytes : ByteArray) (w : World) :
    Outcome (Except Errno Nat) × World :=
  let fail (e : Errno) : Outcome (Except Errno Nat) × World :=
    (.reply (.error e) simpleCost, w)
  let took (n : Nat) (w : World) : Outcome (Except Errno Nat) × World :=
    (.reply (.ok n) (transferCost n), w)
  if !file.writable then fail .badDescriptor
  else match file.object with
    | .file id =>
      let offset := if file.append then (w.1.contents id).bytes.size else file.offset
      let w := w.mapFiles (·.writeAt id offset bytes)
      took bytes.size (w.updateOpen number fun o => { o with offset := offset + bytes.size })
    | .device .full => if bytes.isEmpty then took 0 w else fail .noSpace
    | .device _ => took bytes.size w
    | .report .. | .directory _ => fail .badDescriptor
    | .pipeEnd id _ =>
      if !w.reads id then
        match p.disposition Signal.pipe with
        | .standard => (.over, w.signal p.pid Signal.pipe)
        | .ignored => fail .brokenPipe
        | .caught =>
          (.reply (.error .brokenPipe) simpleCost, w.signal p.pid Signal.pipe)
      else
        let free := pipeCapacity - (w.pipeBytes id).size
        if free = 0 ∨ (bytes.size ≤ atomicWrite ∧ free < bytes.size) then (.wait, w)
        else
          let n := min free bytes.size
          took n (w.updatePipe id fun b => b ++ bytes.extract 0 n)

/-- A change of the file tree that a process asks for. -/
def changeFiles (files : FileTree) (directory : Path) : Change → Except Errno FileTree
  | .makeDirectory path => (files.makeDirectory directory path).map (·.2)
  | .removeDirectory path => files.removeDirectory directory path
  | .unlink path => files.unlink directory path
  | .rename old new => files.rename directory old new
  | .link target path => files.makeLink directory target path
  | .hardLink old new => do
    let (_, node) ← files.find directory old false
    let place ← files.resolve directory new false
    if node = .directory then throw .notPermitted
    if (files.node? place).isSome then throw .alreadyThere
    return files.insert place node
  | .setMode path mode => do
    match ← files.find directory path true with
    | (_, .file id) => return files.modifyContents id fun c => { c with mode }
    | _ => return files

/-- What the system says about the file at a path. -/
def statusCall (p : Process) (path : String) (follow : Bool) (w : World) :
    Except Errno FileStatus :=
  match descriptorPath? path with
  | some fd =>
    match w.descriptor? p fd with
    | some (_, file) => .ok (openStatus w.1 file)
    | none => .error .noEntry
  | none =>
    match w.report? p.pid path with
    | some _ => .ok { identity := .report path }
    | none => do
      let (place, node) ← w.1.find p.directory path follow
      .ok (nodeStatus w.1 place node)

/-- The names of the nodes that satisfy a condition. -/
def namesOf (files : FileTree) (condition : Node → Bool) : List String :=
  (files.nodes.filter (condition ·.2)).map (·.1.text)

/-- What an open file is called. -/
def objectName (files : FileTree) : Object → String
  | .pipeEnd id _ => "pipe:[" ++ toString id ++ "]"
  | .directory place => place.text
  | .report place _ => place
  | .device d => ((namesOf files fun
      | .device e => d == e
      | _ => false).head?).getD "/dev/null"
  | .file id => ((namesOf files fun
      | .file other => id == other
      | _ => false).head?).getD "/ (deleted)"

/-- Where a link goes. -/
def linkCall (p : Process) (path : String) (w : World) : Except Errno String :=
  let viaDescriptor := path.startsWith "/proc" ∨ path.startsWith "/dev/fd"
  match (descriptorPath? path).filter fun _ => viaDescriptor with
  | some fd =>
    match w.descriptor? p fd with
    | some (_, file) => .ok (objectName w.1 file.object)
    | none => .error .noEntry
  | none =>
    match w.1.find p.directory path false with
    | .ok (_, .link target) => .ok target
    | .ok _ => .error .invalidArgument
    | .error e => .error e

/-- The names in a directory. -/
def listCall (p : Process) (path : String) (w : World) : Except Errno (List String) := do
  match ← w.1.find p.directory path true with
  | (place, .directory) =>
    let names := (w.1.children place).map (·.1)
    return if place = ["proc"] then names ++ w.2.processes.map (toString ·.pid) else names
  | _ => throw .notDirectory

/-! ## Processes -/

/-- Waits for a child. -/
def waitCall (p : Process) (target : Int) (block : Bool) (w : World) :
    Outcome (Except Errno (Option (Nat × Ending))) × World :=
  let mine := (w.childrenOf p.pid).filter fun c => target < 0 || c.pid == target.toNat
  if mine.isEmpty then (.reply (.error .noChild) simpleCost, w)
  else
    match mine.findSome? fun c => c.ending.map fun e => (c.pid, e) with
    | some (pid, ending) => (.reply (.ok (some (pid, ending))) simpleCost, w.forget pid)
    | none =>
      if !block then (.reply (.ok none) simpleCost, w)
      else if !p.caught.isEmpty then (.reply (.error .interrupted) simpleCost, w)
      else (.wait, w)

/-- Sleeps for a time. -/
def sleepCall (p : Process) (nanoseconds : Nat) (w : World) :
    Outcome (Except Errno Unit) × World :=
  let now := w.2.clock
  let awake (answer : Except Errno Unit) : Outcome (Except Errno Unit) × World :=
    (.reply answer simpleCost, w.update p.pid fun p => { p with alarm := none })
  if !p.caught.isEmpty then awake (.error .interrupted)
  else match p.alarm with
    | some time => if time ≤ now then awake (.ok ()) else (.waitUntil time, w)
    | none =>
      let time := now + nanoseconds
      (.waitUntil time, w.update p.pid fun p => { p with alarm := some time })

/-- Puts a process into a group. -/
def setGroupCall (p : Process) (pid group : Nat) (w : World) : Except Errno Unit × World :=
  let pid := if pid = 0 then p.pid else pid
  let group := if group = 0 then pid else group
  if (w.process? pid).isNone then (.error .noProcess, w)
  else (.ok (), w.update pid fun p => { p with group })

/-- What a call of a process does. -/
def perform (p : Process) (c : Call) (w : World) : Outcome c.Reply × World :=
  let simple {α : Type} (r : α × World) : Outcome α × World := (.reply r.1 simpleCost, r.2)
  match c with
  | .work nanoseconds => (.reply () nanoseconds, w)
  | .sleep nanoseconds => sleepCall p nanoseconds w
  | .clock => (.reply w.2.clock simpleCost, w)
  | .read fd limit =>
    match w.descriptor? p fd with
    | none => (.reply (.error .badDescriptor) simpleCost, w)
    | some (number, file) =>
      match readCall number file limit w with
      | (.wait, w) =>
        if p.caught.isEmpty then (.wait, w) else (.reply (.error .interrupted) simpleCost, w)
      | outcome => outcome
  | .write fd bytes =>
    match w.descriptor? p fd with
    | none => (.reply (.error .badDescriptor) simpleCost, w)
    | some (number, file) => writeCall p number file bytes w
  | .openFile path flags =>
    let (answer, w) := openCall p path flags w
    (.reply answer lookupCost, w)
  | .close fd =>
    if (p.descriptors.lookup fd).isNone then (.reply (.error .badDescriptor) simpleCost, w)
    else simple (.ok (), (w.update p.pid (·.dropDescriptor fd)).sweepOpen)
  | .duplicate fd least =>
    match p.descriptors.lookup fd with
    | none => (.reply (.error .badDescriptor) simpleCost, w)
    | some number =>
      let new := p.freeDescriptor least
      simple (.ok new, w.update p.pid (·.setDescriptor new number))
  | .redirect fd target =>
    match p.descriptors.lookup fd with
    | none => (.reply (.error .badDescriptor) simpleCost, w)
    | some number => simple (.ok (), (w.update p.pid (·.setDescriptor target number)).sweepOpen)
  | .pipe =>
    let (pipe, w) := w.addPipe
    let (readEnd, w) := w.addOpen { object := .pipeEnd pipe false, readable := true }
    let (writeEnd, w) := w.addOpen { object := .pipeEnd pipe true, writable := true }
    let reader := p.freeDescriptor 3
    let p := p.setDescriptor reader readEnd
    let writer := p.freeDescriptor 3
    let p := p.setDescriptor writer writeEnd
    simple ((reader, writer), w.update p.pid fun q => { q with descriptors := p.descriptors })
  | .become path arguments environment =>
    match w.loadProgram p.directory path arguments environment with
    | .error e => (.reply e lookupCost, w)
    | .ok program => (.over, w.replaceProgram p.pid path arguments program)
  | .wait target block => waitCall p target block w
  | .kill target sig => simple (w.killCall p.pid p.group target sig)
  | .dispose sig d =>
    if sig = Signal.kill ∨ sig = Signal.stop then simple (.standard, w)
    else simple (p.disposition sig, w.update p.pid fun p =>
      { p with dispositions := (sig, d) :: p.dispositions.filter (·.1 != sig) })
  | .caught => simple (p.caught, w.update p.pid fun p => { p with caught := [] })
  | .numbers => simple (⟨p.pid, p.parent, p.group⟩, w)
  | .setGroup pid group => simple (setGroupCall p pid group w)
  | .newSession =>
    if p.group = p.pid then simple (.error .notPermitted, w)
    else simple (.ok p.pid, w.update p.pid fun p => { p with group := p.pid, session := p.pid })
  | .status path follow => (.reply (statusCall p path follow w) lookupCost, w)
  | .statusOf fd =>
    match w.descriptor? p fd with
    | none => simple (.error .badDescriptor, w)
    | some (_, file) => simple (.ok (openStatus w.1 file), w)
  | .list path => (.reply (listCall p path w) lookupCost, w)
  | .readLink path => (.reply (linkCall p path w) lookupCost, w)
  | .change change =>
    match changeFiles w.1 p.directory change with
    | .ok files => (.reply (.ok ()) lookupCost, files, w.2)
    | .error e => (.reply (.error e) lookupCost, w)
  | .goTo path =>
    match w.1.find p.directory path true with
    | .ok (place, .directory) =>
      simple (.ok (), w.update p.pid fun p => { p with directory := place })
    | .ok _ => simple (.error .notDirectory, w)
    | .error e => simple (.error e, w)
  | .here => simple (p.directory.text, w)

/-- Whether a call may let other processes go on. -/
def wakes : Call → Bool
  | .read .. | .write .. | .close _ | .redirect .. | .kill .. | .wait .. => true
  | _ => false

end World

end Overseer.Host
