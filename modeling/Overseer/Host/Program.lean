import Overseer.Host.FileTree
import Overseer.Host.Signal

/-!
# Programs

A program is a tree of interactions with the system.  At each node it makes a *call* and goes on in
a way that depends on the answer, or it splits into a parent and a child, or it ends.  What the
calls do is not its business: that is laid down by `Overseer.Host.Kernel`.

Programs are written as *acts*, which are steps that give a value to what comes after them.

## Main definitions

* `Call`, `Call.Reply` — what a program can ask the system, and the type of each answer
* `Program` — a tree of interactions
* `Act` — a step of a program
* `Loader` — the programs of the system by their names
-/

namespace Overseer.Host

open Overseer.Os

/-- How a file is opened. -/
structure OpenFlags where
  /-- for reading -/
  read : Bool := false
  /-- for writing -/
  write : Bool := false
  /-- every write goes to the end -/
  append : Bool := false
  /-- the file is made if it is missing -/
  create : Bool := false
  /-- the file is emptied -/
  truncate : Bool := false
  /-- the file has to be missing -/
  exclusive : Bool := false
  deriving DecidableEq, Repr, Inhabited

/-- What a file is. -/
inductive FileIdentity where
  | directory (place : Path)
  | file (id : Nat)
  | link (place : Path)
  | device (d : Device)
  | program (name : String)
  | pipe (id : Nat)
  | report (place : String)
  deriving DecidableEq, Repr, Inhabited

/-- What the system says about a file. -/
structure FileStatus where
  /-- what the file is -/
  identity : FileIdentity
  /-- the number of its bytes -/
  size : Nat := 0
  /-- the permission bits -/
  mode : Nat := 0o644
  deriving DecidableEq, Repr, Inhabited

/-- A change of the file tree. -/
inductive Change where
  | makeDirectory (path : String)
  | removeDirectory (path : String)
  | unlink (path : String)
  | rename (old new : String)
  | link (target path : String)
  | hardLink (old new : String)
  | setMode (path : String) (mode : Nat)
  deriving DecidableEq, Repr, Inhabited

/-- The numbers of a process. -/
structure ProcessNumbers where
  /-- its own -/
  pid : Nat
  /-- that of its parent -/
  parent : Nat
  /-- that of its group -/
  group : Nat
  deriving DecidableEq, Repr, Inhabited

/-- What a program can ask the system. -/
inductive Call where
  /-- uses the processor for a time -/
  | work (nanoseconds : Nat)
  /-- does nothing for a time -/
  | sleep (nanoseconds : Nat)
  /-- reads the clock -/
  | clock
  /-- reads at most so many bytes -/
  | read (fd : Nat) (limit : Nat)
  /-- writes bytes, perhaps not all of them -/
  | write (fd : Nat) (bytes : ByteArray)
  /-- opens a file -/
  | openFile (path : String) (flags : OpenFlags)
  /-- closes a descriptor -/
  | close (fd : Nat)
  /-- gives a file another descriptor, the first free one from `least` on -/
  | duplicate (fd least : Nat)
  /-- makes `target` stand for the file of `fd` -/
  | redirect (fd target : Nat)
  /-- makes a pipe -/
  | pipe
  /-- becomes another program, and answers only if that fails -/
  | become (path : String) (arguments : List String) (environment : List (String × String))
  /-- waits for a child to end, or looks whether one has -/
  | wait (target : Int) (block : Bool)
  /-- sends a signal -/
  | kill (target : Int) (signal : Signal)
  /-- says what is to happen on a signal, and answers what was said before -/
  | dispose (signal : Signal) (d : Disposition)
  /-- takes the signals that have been caught -/
  | caught
  /-- asks for the numbers of the process -/
  | numbers
  /-- makes a process lead a group, or join one -/
  | setGroup (pid group : Nat)
  /-- makes the process lead a session of its own -/
  | newSession
  /-- asks about the file at a path -/
  | status (path : String) (follow : Bool)
  /-- asks about an open file -/
  | statusOf (fd : Nat)
  /-- lists a directory -/
  | list (path : String)
  /-- asks where a link goes -/
  | readLink (path : String)
  /-- changes the file tree -/
  | change (c : Change)
  /-- goes to another directory -/
  | goTo (path : String)
  /-- asks for the directory that the process is in -/
  | here
  deriving Inhabited

/-- The type of the answer to a call. -/
def Call.Reply : Call → Type
  | work _ => Unit
  | sleep _ => Except Errno Unit
  | clock => Nat
  | read .. => Except Errno ByteArray
  | write .. => Except Errno Nat
  | openFile .. => Except Errno Nat
  | close _ => Except Errno Unit
  | duplicate .. => Except Errno Nat
  | redirect .. => Except Errno Unit
  | pipe => Nat × Nat
  | become .. => Errno
  | wait .. => Except Errno (Option (Nat × Ending))
  | kill .. => Except Errno Unit
  | dispose .. => Disposition
  | caught => List Signal
  | numbers => ProcessNumbers
  | setGroup .. => Except Errno Unit
  | newSession => Except Errno Nat
  | status .. => Except Errno FileStatus
  | statusOf _ => Except Errno FileStatus
  | list _ => Except Errno (List String)
  | readLink _ => Except Errno String
  | change _ => Except Errno Unit
  | goTo _ => Except Errno Unit
  | here => String

/-- A tree of interactions with the system. -/
inductive Program where
  /-- the program ends with an exit code -/
  | exit (code : Nat)
  /-- the program makes a call and goes on with the answer -/
  | call (c : Call) (next : c.Reply → Program)
  /-- the program splits; the parent goes on with the number of the child -/
  | fork (child : Program) (next : Nat → Program)

instance : Inhabited Program := ⟨.exit 0⟩

/-- A step of a program: it makes a program out of what comes after it. -/
def Act (α : Type) : Type := (α → Program) → Program

namespace Act

instance : Monad Act where
  pure a := fun next => next a
  bind m f := fun next => m fun a => f a next

/-- Ends the program. -/
def exit {α : Type} (code : Nat) : Act α := fun _ => .exit code

/-- Makes a call. -/
def call (c : Call) : Act c.Reply := fun next => .call c next

/-- Splits off a child. -/
def fork (child : Program) : Act Nat := fun next => .fork child next

/-- The program that an act is when nothing comes after it. -/
def program (m : Act Nat) : Program := m .exit

end Act

/-- An environment of a program. -/
abbrev Variables := List (String × String)

/-- The programs of the system: what the program of a name does with arguments, the first of them
being its own name, in an environment. -/
abbrev Loader := String → List String → Variables → Option Program

end Overseer.Host
