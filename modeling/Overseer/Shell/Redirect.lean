import Overseer.Shell.Expansion

/-!
# Redirections

A redirection makes a descriptor lead elsewhere, for one command or for good.  What has to be put
back afterwards is kept in descriptors that no command uses.

## Main definitions

* `redirectAll` — carries out redirections
* `putBack` — undoes them
* `withRedirected` — carries out a step with redirections
-/

namespace Overseer.Shell

open Overseer.Host Overseer.Os

/-- The first descriptor that commands do not use. -/
def firstOwn : Nat := 10

/-- A descriptor that has been changed, and the copy of what it was, if it was open. -/
abbrev Kept := Nat × Option Nat

/-- Closes a descriptor. -/
def closeQuietly (fd : Nat) : ShellM Unit := do
  let _ ← ask (.close fd)

/-- Undoes redirections, the last one first. -/
def putBack : List Kept → ShellM Unit
  | [] => return
  | (fd, copy) :: rest => do
    match copy with
    | some c =>
      let _ ← ask (.redirect c fd)
      closeQuietly c
    | none => closeQuietly fd
    putBack rest

/-- Keeps what a descriptor is. -/
def keep (fd : Nat) : ShellM Kept := do
  match ← ask (.duplicate fd firstOwn) with
  | .ok copy => return (fd, some copy)
  | .error _ => return (fd, none)

/-- How a file that cannot be opened is reported. -/
def openFailure (d : Dialect) (kind : RedirectionKind) (path : String) (e : Errno) : String :=
  match d with
  | .bash =>
    if e = .alreadyThere then path ++ ": cannot overwrite existing file" else path ++ ": " ++ e.text
  | .dash =>
    let missing := e = .noEntry ∨ e = .notDirectory
    if kind = .input then
      "cannot open " ++ path ++ ": " ++ if missing then "No such file" else e.text
    else "cannot create " ++ path ++ ": " ++ if missing then "Directory nonexistent" else e.text

/-- How a file is opened for a redirection. -/
def openFlags (o : Options) : RedirectionKind → OpenFlags
  | .input | .copyInput | .text => { read := true }
  | .inputOutput => { read := true, write := true, create := true }
  | .append | .appendBoth => { write := true, create := true, append := true }
  | .overwrite => { write := true, create := true, truncate := true }
  | .output | .outputBoth | .copyOutput =>
    { write := true, create := true, truncate := !o.noClobber, exclusive := o.noClobber }

/-- A descriptor from which a text can be read. -/
def textDescriptor (inner : Inner) (text : String) : ShellM Nat := do
  let (reader, writer) : Nat × Nat ← ask .pipe
  if text.length ≤ portionSize then
    let _ ← perform (writeText writer text)
  else
    let pid ← splitOff inner do
      closeQuietly reader
      let _ ← perform (writeText writer text)
    modify fun s => { s with jobs := s.jobs.filter (· != pid) }
  closeQuietly writer
  return reader

/-- Makes a descriptor lead where another one leads that is given up.  What it was is kept if that
is asked for. -/
def moveTo (save : Bool) (source fd : Nat) : ShellM (List Kept) := do
  if source = fd then return if save then [(fd, none)] else []
  let kept ← if save then do
      let k ← keep fd
      pure [k]
    else pure []
  let _ ← ask (.redirect source fd)
  closeQuietly source
  return kept

/-- Makes a descriptor lead where another one leads. -/
def copyTo (save : Bool) (source fd : Nat) : ShellM (Except Errno (List Kept)) := do
  if source = fd then
    match ← ask (.statusOf source) with
    | .ok _ => return .ok []
    | .error e => return .error e
  let kept ← if save then do
      let k ← keep fd
      pure [k]
    else pure []
  match ← ask (.redirect source fd) with
  | .ok () => return .ok kept
  | .error e =>
    for (_, copy) in kept do
      match copy with
      | some c => closeQuietly c
      | none => pure ()
    return .error e

/-- Opens a file for one or both output streams. -/
def openFor (save : Bool) (kind : RedirectionKind) (path : String) (fds : List Nat) :
    ShellM (Except String (List Kept)) := do
  let s ← get
  match ← ask (.openFile path (openFlags s.options kind)) with
  | .error .alreadyThere =>
    match ← ask (.status path true) with
    | .ok { identity := .device _, .. } =>
      match ← ask (.openFile path { write := true }) with
      | .ok source => return .ok (← lead source fds)
      | .error e => return .error (openFailure s.dialect kind path e)
    | _ => return .error (openFailure s.dialect kind path .alreadyThere)
  | .error e => return .error (openFailure s.dialect kind path e)
  | .ok source => return .ok (← lead source fds)
where
  /-- Makes descriptors lead where one leads that is given up. -/
  lead (source : Nat) : List Nat → ShellM (List Kept)
    | [] => return []
    | [fd] => moveTo save source fd
    | fd :: rest => do
      let kept ← copyTo save source fd
      let more ← lead source rest
      return more ++ (kept.toOption.getD [])

/-- The text of the target of a redirection. -/
def targetText (inner : Inner) (kind : RedirectionKind) (w : Word) :
    ShellM (Except String String) := do
  match kind with
  | .text => return .ok (← expandText inner w)
  | _ =>
    if (← dialect) = .dash then return .ok (← expandText inner w)
    match ← expandWord inner w with
    | [text] => return .ok text
    | texts => return .error (" ".intercalate texts ++ ": ambiguous redirect")

/-- Carries out a redirection.  What has to be put back is given, the last change first. -/
def redirectOne (inner : Inner) (save : Bool) : Redirection → ShellM (Except String (List Kept))
  | .mk fd kind w => do
    let d ← dialect
    match ← targetText inner kind w with
    | .error e => return .error e
    | .ok text =>
      match kind with
      | .input | .inputOutput => openFor save kind text [fd.getD 0]
      | .output | .overwrite | .append => openFor save kind text [fd.getD 1]
      | .outputBoth | .appendBoth => openFor save kind text [2, 1]
      | .text =>
        let source ← textDescriptor inner text
        return .ok (← moveTo save source (fd.getD 0))
      | .copyInput | .copyOutput =>
        let target := fd.getD (if kind = .copyInput then 0 else 1)
        if text = "-" then
          let kept ← if save then do
              let k ← keep target
              pure [k]
            else pure []
          closeQuietly target
          return .ok kept
        let (digits, moves) := if text.endsWith "-" then (String.ofList text.toList.dropLast, true)
          else (text, false)
        match (digits.toNat?.filter fun _ => digits.toList.all Char.isDigit) with
        | some source =>
          match ← copyTo save source target with
          | .ok kept =>
            if moves then closeQuietly source
            return .ok kept
          | .error e => return .error (digits ++ ": " ++ e.text)
        | none =>
          if d = .bash ∧ kind = .copyOutput ∧ fd.all (· == 1) then
            openFor save .outputBoth text [2, 1]
          else if d = .bash then return .error (text ++ ": ambiguous redirect")
          else failFatally "Syntax error: Bad fd number" fatalStatus

/-- Carries out redirections, until one fails. -/
def redirectEach (inner : Inner) (save : Bool) :
    List Redirection → (sofar : List Kept) → ShellM (Bool × List Kept)
  | [], sofar => return (true, sofar)
  | r :: rest, sofar => do
    match ← redirectOne inner save r with
    | .ok kept => redirectEach inner save rest (kept ++ sofar)
    | .error message =>
      complain message
      return (false, sofar)

/-- Carries out redirections.  What has to be put back is given, nothing if one has failed. -/
def redirectAll (inner : Inner) (save : Bool) (rs : List Redirection) :
    ShellM (Option (List Kept)) := do
  let (done, kept) ← redirectEach inner save rs []
  if done then return some kept
  putBack kept
  return none

/-- The status after a redirection that has failed. -/
def redirectionStatus (d : Dialect) : Nat := if d = .bash then 1 else fatalStatus

/-- Carries out a step with redirections, and says whether they succeeded. -/
def withRedirected (inner : Inner) (rs : List Redirection) (m : ShellM Unit) : ShellM Bool := do
  match ← redirectAll inner true rs with
  | none =>
    setStatus (redirectionStatus (← dialect))
    return false
  | some kept =>
    always m (putBack kept)
    return true

end Overseer.Shell
