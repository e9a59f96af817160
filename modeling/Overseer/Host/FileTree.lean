import Overseer.Host.Octets
import Overseer.Os.Error

/-!
# Trees of files

A file tree maps paths to nodes.  The contents of files are kept apart from their names, so that a
file that has been opened outlives its name.

Paths are lists of names from the root on.  A path *text* is resolved name by name: links are
followed, `.` and `..` are taken as they come, and each way to go wrong has its own error.

## Main definitions

* `Path`, `Node`, `FileTree` — a tree of files
* `FileTree.resolve` — the place that a path text names
* `FileTree.makeDirectory`, `createFile`, `unlink`, `removeDirectory`, `removeTree`, `rename` —
  changes
* `FileTree.contents`, `setContents` — what is in a file
-/

namespace Overseer.Host

open Overseer.Os

/-- The names from the root to a place. -/
abbrev Path := List String

/-- A path as a text. -/
def Path.text (p : Path) : String := "/" ++ "/".intercalate p

/-- The directory of a path; the root is its own. -/
def Path.parent (p : Path) : Path := p.dropLast

/-- The last name of a path. -/
def Path.fileName (p : Path) : String := p.getLast?.getD ""

/-- A path lies at a directory or below it. -/
def Path.within (dir p : Path) : Bool := dir.isPrefixOf p

/-- What a file name ends in behind its last dot, if something stands before that dot. -/
def extension? (name : String) : Option String :=
  let behind := name.toList.reverse.takeWhile (· != '.')
  let before := name.length - behind.length - 1
  if name.toList.contains '.' ∧ 0 < before then some (String.ofList behind.reverse) else none

/-- Special files. -/
inductive Device where
  /-- empty, and takes everything -/
  | null
  /-- an endless run of zeros -/
  | zero
  /-- always full -/
  | full
  deriving DecidableEq, Repr, Inhabited

/-- What stands at a path. -/
inductive Node where
  /-- a directory -/
  | directory
  /-- a file, by the number of its contents -/
  | file (id : Nat)
  /-- a symbolic link -/
  | link (target : String)
  /-- a special file -/
  | device (d : Device)
  /-- a program of the system -/
  | program (name : String)
  deriving DecidableEq, Repr, Inhabited

/-- The contents of a file and who may execute it. -/
structure Contents where
  /-- the bytes -/
  bytes : ByteArray := .empty
  /-- the permission bits -/
  mode : Nat := 0o644
  deriving Inhabited

/-- A tree of files.  The root itself is not listed. -/
structure FileTree where
  /-- the nodes, each under its path -/
  nodes : List (Path × Node) := []
  /-- the contents of the files, by number -/
  files : List (Nat × Contents) := []
  /-- the number of the next file -/
  nextFile : Nat := 0
  /-- counts the fresh names that have been given out -/
  nextTag : Nat := 0
  deriving Inhabited

namespace FileTree

/-- What stands at a path. -/
def node? (t : FileTree) (p : Path) : Option Node :=
  if p.isEmpty then some .directory else t.nodes.lookup p

/-- Whether a path stands for a directory. -/
def isDirectory (t : FileTree) (p : Path) : Bool := t.node? p == some .directory

/-- The names in a directory, with their nodes. -/
def children (t : FileTree) (dir : Path) : List (String × Node) :=
  t.nodes.filterMap fun (p, node) =>
    if p.isEmpty ∨ p.parent ≠ dir then none else some (p.fileName, node)

/-- Puts a node at a path. -/
def insert (t : FileTree) (p : Path) (node : Node) : FileTree :=
  { t with nodes := t.nodes.filter (·.1 != p) ++ [(p, node)] }

/-- Takes everything away that satisfies a condition on its path. -/
def eraseIf (t : FileTree) (gone : Path → Bool) : FileTree :=
  { t with nodes := t.nodes.filter fun e => !gone e.1 }

/-! ## Contents -/

/-- The contents of a file. -/
def contents (t : FileTree) (id : Nat) : Contents := (t.files.lookup id).getD {}

/-- Changes the contents of a file. -/
def modifyContents (t : FileTree) (id : Nat) (f : Contents → Contents) : FileTree :=
  { t with files := t.files.map fun (n, c) => if n == id then (n, f c) else (n, c) }

/-- Puts bytes into a file from an offset on. -/
def writeAt (t : FileTree) (id offset : Nat) (bytes : ByteArray) : FileTree :=
  t.modifyContents id fun c =>
    let gap := ByteArray.mk (Array.replicate (offset - c.bytes.size) 0)
    let rest := c.bytes.extract (offset + bytes.size) c.bytes.size
    { c with bytes := c.bytes.extract 0 offset ++ gap ++ bytes ++ rest }

/-- Empties a file. -/
def truncate (t : FileTree) (id : Nat) : FileTree :=
  t.modifyContents id fun c => { c with bytes := .empty }

/-! ## Resolving -/

/-- The longest name that a directory takes. -/
def maxName : Nat := 255

/-- The longest path text. -/
def maxPath : Nat := 4095

/-- Links are followed so many times. -/
def maxLinks : Nat := 40

/-- The names of a path text.  Empty names stand for the place reached. -/
def splitPath (text : String) : List String :=
  (text.toList.splitOn '/').map String.ofList

/-- Whether nothing but empty names is left of a path text. -/
def nothingLeft (names : List String) : Bool := names.all (·.isEmpty)

/-- Walks from a directory along names. `links` bounds how many links may be met. -/
def walk (t : FileTree) (follow : Bool) (links : Nat) (at_ : Path) :
    List String → Except Errno Path
  | [] => .ok at_
  | name :: rest =>
    if name.isEmpty ∨ name = "." then walk t follow links at_ rest
    else if name = ".." then walk t follow links at_.parent rest
    else if maxName < name.length then .error .nameTooLong
    else
      let place := at_ ++ [name]
      match t.node? place with
      | none => if nothingLeft rest then .ok place else .error .noEntry
      | some .directory => walk t follow links place rest
      | some (.link target) =>
        if rest.isEmpty ∧ ¬ follow then .ok place
        else match links with
          | 0 => .error .linkLoop
          | links + 1 =>
            let start := if target.startsWith "/" then [] else at_
            walk t follow links start (splitPath target ++ rest)
      | some _ => if rest.isEmpty then .ok place else .error .notDirectory
  termination_by names => (links, names.length)

/-- The place that a path text names, seen from a directory.  Its directory exists; whether anything
stands there itself is left open. -/
def resolve (t : FileTree) (cwd : Path) (text : String) (follow : Bool) : Except Errno Path :=
  if text.isEmpty then .error .noEntry
  else if maxPath < text.length then .error .nameTooLong
  else t.walk follow maxLinks (if text.startsWith "/" then [] else cwd) (splitPath text)

/-- The place that a path text names, and what stands there. -/
def find (t : FileTree) (cwd : Path) (text : String) (follow : Bool) :
    Except Errno (Path × Node) := do
  let place ← t.resolve cwd text follow
  match t.node? place with
  | some node => .ok (place, node)
  | none => .error .noEntry

/-! ## Changes -/

/-- Makes a directory. -/
def makeDirectory (t : FileTree) (cwd : Path) (text : String) : Except Errno (Path × FileTree) := do
  let place ← t.resolve cwd text true
  match t.node? place with
  | some _ => .error .alreadyThere
  | none => .ok (place, t.insert place .directory)

/-- Makes an empty file where nothing stands, and gives its number. -/
def createFile (t : FileTree) (cwd : Path) (text : String) (mode : Nat) :
    Except Errno (Path × Nat × FileTree) := do
  let place ← t.resolve cwd text true
  match t.node? place with
  | some _ => .error .alreadyThere
  | none =>
    if text.endsWith "/" then .error .isDirectory
    else
      let id := t.nextFile
      let t := { t with files := (id, { mode }) :: t.files, nextFile := id + 1 }
      .ok (place, id, t.insert place (.file id))

/-- Takes a name away that is not that of a directory. -/
def unlink (t : FileTree) (cwd : Path) (text : String) : Except Errno FileTree := do
  let (place, node) ← t.find cwd text false
  if node = .directory then .error .isDirectory else .ok (t.eraseIf (· == place))

/-- Takes an empty directory away. -/
def removeDirectory (t : FileTree) (cwd : Path) (text : String) : Except Errno FileTree := do
  let (place, node) ← t.find cwd text false
  if node ≠ .directory then .error .notDirectory
  else if place.isEmpty then .error .notPermitted
  else if !(t.children place).isEmpty then .error .notEmpty
  else .ok (t.eraseIf (· == place))

/-- Takes a directory away with everything below it. -/
def removeTree (t : FileTree) (dir : Path) : Except Errno FileTree :=
  match t.node? dir with
  | none => .error .noEntry
  | some .directory => .ok (t.eraseIf dir.within)
  | some _ => .error .notDirectory

/-- Gives a place another name. -/
def rename (t : FileTree) (cwd : Path) (old new : String) : Except Errno FileTree := do
  let (source, node) ← t.find cwd old false
  let target ← t.resolve cwd new false
  if source = target then return t
  if source.within target then throw .invalidArgument
  match t.node? target, node with
  | some .directory, .directory =>
    if !(t.children target).isEmpty then throw .notEmpty
  | some .directory, _ => throw .isDirectory
  | some _, .directory => throw .notDirectory
  | _, _ => pure ()
  let t := t.eraseIf (· == target)
  return { t with nodes := t.nodes.map fun (p, n) =>
    if source.within p then (target ++ p.drop source.length, n) else (p, n) }

/-- Makes a symbolic link. -/
def makeLink (t : FileTree) (cwd : Path) (target text : String) : Except Errno FileTree := do
  let place ← t.resolve cwd text false
  match t.node? place with
  | some _ => .error .alreadyThere
  | none => .ok (t.insert place (.link target))

/-! ## Fresh names -/

/-- The characters of fresh names. -/
def tagCharacters : List Char :=
  "abcdefghijklmnopqrstuvwxyzABCDEFGHIJKLMNOPQRSTUVWXYZ0123456789".toList

/-- Six characters for a number, different ones for different numbers as long as they do. -/
def tag (n : Nat) : String :=
  String.ofList <| (List.range 6).map fun i =>
    tagCharacters.getD (n / Nat.pow tagCharacters.length i % tagCharacters.length) 'a'

/-- The first number from `n` on whose tag makes a name that is not in a directory, among as many as
are tried. -/
def freshTag (taken : List String) (name : String → String) : Nat → Nat → Nat
  | 0, n => n
  | tries + 1, n =>
    if taken.contains (name (tag n)) then freshTag taken name tries (n + 1) else n

/-- A name that is not in a directory, and the tree that will not give it out again. -/
def freshName (t : FileTree) (dir : Path) (name : String → String) : String × FileTree :=
  let taken := (t.children dir).map (·.1)
  let n := freshTag taken name taken.length t.nextTag
  (name (tag n), { t with nextTag := n + 1 })

end FileTree

end Overseer.Host
