import Overseer.Capture.LineReader
import Overseer.Os.Error
import Overseer.Processes.Error
import Overseer.Text.OsText
import Overseer.Time.Timestamp

/-!
# What a supervisor asks of the system

A supervisor starts a child, waits for news of it, collects it when it has ended, and kills it when
its time is up.  Everything it needs for that is collected here as an interface over a state of any
type, so that it can be run on any system and against any course of events.

Times are nanoseconds on a clock that never goes back.

## Main definitions

* `ExitStatus` — how a process ended
* `Launch` — a program to start and how its child is set up
* `News` — what can be seen of a child
* `Platform` — the interface
-/

namespace Overseer

open Overseer.Os Overseer.Processes Overseer.Text Overseer.Time

/-- How a process ended. -/
inductive ExitStatus where
  /-- it ended by itself with an exit code -/
  | code (n : Int32)
  /-- a signal ended it -/
  | signal (n : Int32)
  deriving DecidableEq, Repr, Inhabited

namespace ExitStatus

/-- The signal that no process can resist. -/
def killSignal : Int32 := 9

/-- The exit code, if there is one. -/
def code? : ExitStatus → Option Int32
  | code n => some n
  | signal _ => none

/-- The signal, if there is one. -/
def signal? : ExitStatus → Option Int32
  | code _ => none
  | signal n => some n

end ExitStatus

/-- A program to start.  Its standard input is empty and its two output streams are piped to the
supervisor. -/
structure Launch where
  /-- the program, a path or a name to search for -/
  program : OsText
  /-- the arguments behind the program name -/
  arguments : List OsText
  /-- the child leads a process group of its own -/
  ownGroup : Bool
  deriving Inhabited

namespace Launch

/-- Whether a zero byte in the program or in an argument rules the launch out. -/
def hasZero (l : Launch) : Bool := l.program.hasZero || l.arguments.any (·.hasZero)

end Launch

/-- What can be seen of a child. -/
inductive News where
  /-- bytes have been read from one of its streams -/
  | output (stream : Stream) (bytes : ByteArray)
  /-- one of its streams has ended -/
  | ended (stream : Stream)
  /-- it has ended and waits to be collected -/
  | exited
  /-- nothing has happened up to the time asked for -/
  | quiet
  deriving Inhabited

/-- What a supervisor asks of the system, over a state of type `σ`. -/
structure Platform (σ : Type) where
  /-- the time since the clock was started -/
  clock : StateM σ Nat
  /-- the time of day -/
  timeOfDay : StateM σ Timestamp
  /-- starts a child -/
  launch : Launch → StateM σ (Except OsError Pid)
  /-- waits for news of a child, at most until the given time if there is one -/
  await : Pid → Option Nat → StateM σ News
  /-- collects a child that has ended: its number may be given to another process from now on -/
  collect : Pid → StateM σ (Except OsError ExitStatus)
  /-- the system call that sends the killing signal -/
  kill : Int → StateM σ (Except Errno Unit)
  /-- stops reading a stream, so that writing to it fails from now on -/
  hangUp : Pid → Stream → StateM σ Unit
  /-- lets a child go: it is killed if it has not been collected, and none of its streams is read
  any more -/
  release : Pid → StateM σ Unit

end Overseer
