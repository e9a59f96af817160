import Overseer.Capture.Buffer
import Overseer.Capture.LineReader
import Overseer.Terminal.Clean

/-!
# The capture of two output streams

Each stream has a reader, which turns bytes into lines, and a channel, which takes a bounded number
of lines.  A single *drain* takes lines out of both channels in any order and adds them to one
buffer for each stream.  It ends when it has seen both channels closed.  It can also be cut short:
then it still takes what is in the channels, first of the one stream, then of the other, and ends.

The parties work at the same time, so the capture is a machine whose *actions* are the smallest
steps of each party; a run may take them in any order in which each of them is possible.  `settle`
is the run in which nobody waits without a reason.

## Main definitions

* `Lane` — reader, channel and buffer of one stream
* `Pipeline` — both lanes and how far the drain is
* `Action`, `Pipeline.act?` — the steps of the parties
* `Pipeline.settle` — takes the steps that wait for nobody outside
* `Pipeline.text` — the cleaned text of a stream
-/

namespace Overseer.Capture

/-- A channel takes so many lines. -/
def channelCapacity : Nat := 256

/-- The way of one stream from its reader to its buffer. -/
structure Lane where
  /-- the reader, with the unfinished line -/
  reader : LineReader := {}
  /-- lines that the reader has yet to send, in order -/
  backlog : List String := []
  /-- the reader has seen the end of the stream -/
  ended : Bool := false
  /-- the lines in the channel, in order -/
  queue : List String := []
  /-- the drain has not seen the channel closed -/
  listening : Bool := true
  /-- the lines taken out of the channel -/
  captured : String := ""
  deriving Inhabited

namespace Lane

/-- The reader has sent its last line, and nothing more comes into the channel. -/
def closed (lane : Lane) : Bool := lane.ended && lane.backlog.isEmpty

/-- The reader waits for bytes. -/
def awaitsBytes (lane : Lane) : Bool := !lane.ended && lane.backlog.isEmpty

/-- The reader receives bytes. -/
def read (bytes : ByteArray) (lane : Lane) : Lane :=
  let (reader, lines) := lane.reader.feed bytes
  { lane with reader, backlog := lines }

/-- The reader sees the end of the stream. -/
def readEnd (lane : Lane) : Lane :=
  { lane with reader := {}, backlog := lane.reader.finish, ended := true }

/-- The reader puts its next line into the channel. -/
def send (lane : Lane) : Lane :=
  match lane.backlog with
  | [] => lane
  | line :: rest => { lane with backlog := rest, queue := lane.queue ++ [line] }

/-- The next line goes from the channel into the buffer. -/
def receive (lane : Lane) : Lane :=
  match lane.queue with
  | [] => lane
  | line :: rest => { lane with queue := rest, captured := appendLine lane.captured line }

/-- The drain sees that the channel is closed. -/
def hangUp (lane : Lane) : Lane := { lane with listening := false }

/-- How many steps a lane can take at most without new bytes. -/
def weight (lane : Lane) : Nat :=
  2 * lane.backlog.length + lane.queue.length + if lane.listening then 1 else 0

end Lane

/-- How far the drain is. -/
inductive Phase where
  /-- it takes lines out of both channels -/
  | merging
  /-- it takes what is left in one channel -/
  | sweeping (stream : Stream)
  /-- it has ended -/
  | done
  deriving DecidableEq, Repr, Inhabited

/-- The phase behind the sweep of a channel. -/
def Phase.afterSweep : Stream → Phase
  | .stdout => .sweeping .stderr
  | .stderr => .done

/-- The capture of both streams. -/
structure Pipeline where
  /-- the standard output -/
  stdout : Lane := {}
  /-- the standard error output -/
  stderr : Lane := {}
  /-- how far the drain is -/
  phase : Phase := .merging
  /-- the drain has been told to end -/
  cancelled : Bool := false
  deriving Inhabited

/-- The steps of the parties. -/
inductive Action where
  /-- a reader receives bytes -/
  | read (stream : Stream) (bytes : ByteArray)
  /-- a reader sees the end of its stream -/
  | readEnd (stream : Stream)
  /-- a reader puts a line into its channel -/
  | send (stream : Stream)
  /-- the drain takes a line out of a channel -/
  | receive (stream : Stream)
  /-- the drain sees that a channel is closed -/
  | hangUp (stream : Stream)
  /-- the drain is told to end -/
  | cancel
  /-- the drain leaves its main loop -/
  | leave
  /-- the drain has found a channel empty after its main loop -/
  | sweepEnd (stream : Stream)
  deriving Inhabited

namespace Pipeline

/-- The lane of a stream. -/
def lane (p : Pipeline) : Stream → Lane
  | .stdout => p.stdout
  | .stderr => p.stderr

/-- Changes the lane of a stream. -/
def updateLane (stream : Stream) (f : Lane → Lane) (p : Pipeline) : Pipeline :=
  match stream with
  | .stdout => { p with stdout := f p.stdout }
  | .stderr => { p with stderr := f p.stderr }

/-- The drain may take a line of a stream now. -/
def takes (p : Pipeline) (stream : Stream) : Bool :=
  match p.phase with
  | .merging => (p.lane stream).listening
  | .sweeping s => s == stream
  | .done => false

/-- The drain listens to neither channel any more, or has been told to end. -/
def mayLeave (p : Pipeline) : Bool :=
  p.cancelled || !(p.stdout.listening || p.stderr.listening)

/-- Whether an action is possible now. -/
def enabled (p : Pipeline) : Action → Bool
  | .read s bytes => (p.lane s).awaitsBytes && !bytes.isEmpty
  | .readEnd s => (p.lane s).awaitsBytes
  | .send s =>
    p.phase != .done && !(p.lane s).backlog.isEmpty &&
      decide ((p.lane s).queue.length < channelCapacity)
  | .receive s => p.takes s && !(p.lane s).queue.isEmpty
  | .hangUp s =>
    p.phase == .merging && (p.lane s).listening && (p.lane s).queue.isEmpty && (p.lane s).closed
  | .cancel => !p.cancelled
  | .leave => p.phase == .merging && p.mayLeave
  | .sweepEnd s => p.phase == .sweeping s && (p.lane s).queue.isEmpty

/-- What an action does. -/
def perform (p : Pipeline) : Action → Pipeline
  | .read s bytes => p.updateLane s (·.read bytes)
  | .readEnd s => p.updateLane s (·.readEnd)
  | .send s => p.updateLane s (·.send)
  | .receive s => p.updateLane s (·.receive)
  | .hangUp s => p.updateLane s (·.hangUp)
  | .cancel => { p with cancelled := true }
  | .leave => { p with phase := .sweeping .stdout }
  | .sweepEnd s => { p with phase := Phase.afterSweep s }

/-- Takes an action, if it is possible now. -/
def act? (p : Pipeline) (a : Action) : Option Pipeline :=
  if p.enabled a then some (p.perform a) else none

/-- What the parties can do for one stream without waiting for anybody outside, the drain first. -/
def ownActions (s : Stream) : List Action := [.receive s, .hangUp s, .send s, .sweepEnd s]

/-- The next step of a run in which nobody waits without a reason. -/
def next? (p : Pipeline) : Option Action :=
  (.leave :: ownActions .stdout ++ ownActions .stderr).find? p.enabled

/-- How many steps can be taken at most before the parties wait for somebody outside. -/
def weight (p : Pipeline) : Nat :=
  p.stdout.weight + p.stderr.weight + 3

/-- Takes at most so many steps. -/
def settleFor : Nat → Pipeline → Pipeline
  | 0, p => p
  | n + 1, p =>
    match p.next? with
    | none => p
    | some a => settleFor n (p.perform a)

/-- Takes every step for which nobody outside has to do anything. -/
def settle (p : Pipeline) : Pipeline := settleFor p.weight p

/-- Hands a piece of a stream to its reader. -/
def read (p : Pipeline) (s : Stream) (bytes : ByteArray) : Pipeline :=
  if p.enabled (.read s bytes) then (p.perform (.read s bytes)).settle else p

/-- Lets a reader see the end of its stream. -/
def readEnd (p : Pipeline) (s : Stream) : Pipeline :=
  if p.enabled (.readEnd s) then (p.perform (.readEnd s)).settle else p

/-- Cuts the drain short. -/
def cut (p : Pipeline) : Pipeline :=
  if p.enabled .cancel then (p.perform .cancel).settle else p

/-- The drain has ended. -/
def finished (p : Pipeline) : Bool := p.phase == .done

/-- The cleaned text of a stream. -/
def text (p : Pipeline) (s : Stream) : String := Terminal.clean (p.lane s).captured

end Pipeline

end Overseer.Capture
