import Overseer.Host.Octets
import Overseer.Host.Program

/-!
# Reading and writing streams

One call reads or writes as much as the system likes.  Here calls are repeated until everything has
been read or written.

## Main definitions

* `writeAll`, `writeText` — write everything
* `readAll` — reads everything
* `copyStream` — hands on everything that is read
-/

namespace Overseer.Host

open Overseer.Os

/-- The number of times that a call is repeated at most. -/
def manyTimes : Nat := 1099511627776

/-- As many bytes are read at a time. -/
def portionSize : Nat := 65536

/-- Writes bytes; each of so many calls takes what it can. -/
def writeFor : Nat → Nat → ByteArray → Act (Except Errno Unit)
  | 0, _, _ => return .ok ()
  | n + 1, fd, bytes =>
    if bytes.isEmpty then return .ok ()
    else do
      match ← Act.call (.write fd bytes) with
      | .ok 0 => return .ok ()
      | .ok k => writeFor n fd (bytes.extract k bytes.size)
      | .error .interrupted => writeFor n fd bytes
      | .error e => return .error e

/-- Writes bytes. -/
def writeAll (fd : Nat) (bytes : ByteArray) : Act (Except Errno Unit) :=
  writeFor manyTimes fd bytes

/-- Writes a text. -/
def writeText (fd : Nat) (text : String) : Act (Except Errno Unit) := writeAll fd (bytesOf text)

/-- Reads a descriptor to its end, in so many portions at most. -/
def readAllFor : Nat → Nat → ByteArray → Act (Except Errno ByteArray)
  | 0, _, sofar => return .ok sofar
  | n + 1, fd, sofar => do
    match ← Act.call (.read fd portionSize) with
    | .ok bytes => if bytes.isEmpty then return .ok sofar else readAllFor n fd (sofar ++ bytes)
    | .error .interrupted => readAllFor n fd sofar
    | .error e => return .error e

/-- Reads a descriptor to its end. -/
def readAll (fd : Nat) : Act (Except Errno ByteArray) := readAllFor manyTimes fd .empty

/-- Changes what is read and hands it on, in so many portions at most. -/
def copyFor {σ : Type} (change : σ → ByteArray → ByteArray × σ) :
    Nat → Nat → Nat → σ → Act (Except Errno σ)
  | 0, _, _, s => return .ok s
  | n + 1, source, target, s => do
    match ← Act.call (.read source portionSize) with
    | .error .interrupted => copyFor change n source target s
    | .error e => return .error e
    | .ok bytes =>
      if bytes.isEmpty then return .ok s
      else
        let (made, s) := change s bytes
        match ← writeAll target made with
        | .ok () => copyFor change n source target s
        | .error e => return .error e

/-- Changes what is read and hands it on. -/
def copyStream {σ : Type} (change : σ → ByteArray → ByteArray × σ) (source target : Nat) (s : σ) :
    Act (Except Errno σ) :=
  copyFor change manyTimes source target s

end Overseer.Host
