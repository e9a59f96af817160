import Overseer.Host.FileTree

/-!
# Scripts in files of their own

A script that is to be run is written to a fresh file in a fresh directory.  The script holds a
handle on that directory, and the directory goes away with the handle: early by a clean-up, at the
latest when the script is dropped.

The system may fail at each stage of making the script, and when the directory is removed.  Such
failures are given as data; failures that follow from the file tree itself come on top of them.

## Main definitions

* `Faults` — failures of the system
* `EphemeralScript` — a script in a file
* `EphemeralScript.create` — writes a script to a fresh file
* `EphemeralScript.cleanup` — removes the directory early
* `EphemeralScript.drop` — the end of a script
-/

namespace Overseer.Script

open Overseer.Host Overseer.Os

/-- Failures of the system, each at one stage. -/
structure Faults where
  /-- making the directory -/
  directory : Option OsError := none
  /-- making the file -/
  file : Option OsError := none
  /-- writing the source -/
  write : Option OsError := none
  /-- flushing what was written -/
  flush : Option OsError := none
  /-- keeping the file beyond its own handle -/
  keep : Option OsError := none
  /-- removing the directory -/
  removal : Option OsError := none
  deriving Inhabited

/-- What the names of script directories begin with. -/
def directoryStem : String := "hostexec"

/-- What the names of script files begin with. -/
def fileStem : String := ".tmp"

/-- Where script directories are made unless another place is named. -/
def systemRoot : String := "/tmp"

/-- A script in a file. -/
structure EphemeralScript where
  /-- the directory is to be removed -/
  live : Bool
  /-- the directory -/
  dir : Path
  /-- the file -/
  path : Path
  /-- the source that was written -/
  source : String
  deriving DecidableEq, Inhabited

/-- A failure of the system, if there is one. -/
def fail? : Option OsError → Except OsError Unit
  | none => .ok ()
  | some e => .error e

/-- An outcome of the file tree as one of the system. -/
def ofTree {α : Type} : Except Errno α → Except OsError α
  | .ok a => .ok a
  | .error e => .error (.ofErrno e)

namespace EphemeralScript

/-- Makes a fresh directory under a root. -/
def makeDirectory (faults : Faults) (root : String) (files : FileTree) :
    Except OsError (Path × FileTree) := do
  fail? faults.directory
  let place ← ofTree (files.resolve [] root true)
  let (name, files) := files.freshName place (directoryStem ++ ·)
  ofTree (files.makeDirectory [] (root ++ "/" ++ name))

/-- Makes a fresh file in a directory, with the given ending of its name. -/
def makeFile (faults : Faults) (dir : Path) (extension : String) (files : FileTree) :
    Except OsError (Path × Nat × FileTree) := do
  fail? faults.file
  if extension.toList.contains '\x00' then throw .zeroByte
  let (name, files) := files.freshName dir fun tag => fileStem ++ tag ++ octetsOfText extension
  ofTree (files.createFile [] (dir.text ++ "/" ++ name) 0o600)

/-- Writes the source into the file, and keeps the file. -/
def fill (faults : Faults) (file : Nat) (source : String) (files : FileTree) :
    Except OsError FileTree := do
  fail? faults.write
  let files := files.writeAt file 0 source.toUTF8
  fail? faults.flush
  fail? faults.keep
  return files

/-- Removes a directory whose handle is closed or dropped. -/
def remove (faults : Faults) (dir : Path) (files : FileTree) : Except OsError FileTree := do
  fail? faults.removal
  ofTree (files.removeTree dir)

/-- Removes a directory as far as that can be done. -/
def discard (faults : Faults) (dir : Path) (files : FileTree) : FileTree :=
  match remove faults dir files with
  | .ok files => files
  | .error _ => files

/-- Writes a script to a fresh file in a fresh directory under a root.  When that fails at any stage
the directory is removed again. -/
def create (faults : Faults) (root : String) (extension source : String) :
    StateM FileTree (Except OsError EphemeralScript) := fun files =>
  match makeDirectory faults root files with
  | .error e => (.error e, files)
  | .ok (dir, files) =>
    match makeFile faults dir extension files with
    | .error e => (.error e, discard faults dir files)
    | .ok (path, file, files) =>
      match fill faults file source files with
      | .error e => (.error e, discard faults dir files)
      | .ok files => (.ok ⟨true, dir, path, source⟩, files)

/-- Removes the directory now.  The handle is used up, whether that succeeds or not. -/
def cleanup (faults : Faults) (script : EphemeralScript) :
    StateM FileTree (Except OsError Unit × EphemeralScript) := fun files =>
  if script.live then
    let script := { script with live := false }
    match remove faults script.dir files with
    | .ok files => ((.ok (), script), files)
    | .error e => ((.error e, script), files)
  else ((.ok (), script), files)

/-- Ends a script: its directory goes away with it. -/
def drop (faults : Faults) (script : EphemeralScript) : StateM FileTree Unit := fun files =>
  if script.live then ((), discard faults script.dir files) else ((), files)

/-- The path of the file as a text of the operating system. -/
def pathText (script : EphemeralScript) : Text.OsText := osText script.path.text

end EphemeralScript

end Overseer.Script
