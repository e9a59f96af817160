import Overseer.Proofs.Host.Places
import Overseer.Script.Ephemeral

/-!
# Making a script

A script is written to a fresh file in a fresh directory, in stages (`Creates`).  What is needed to know
about the tree behind them is collected in `Made`: the directory stands where nothing stood, and outside of
it everything is as it was.  The one point in this that is not plain is the file: its name ends in whatever
is asked for, and is resolved like any other path text.  It lies in the directory because the directory is
still empty then.

`made_of_create` says so of every script that is written, and `exists_create_ok` that a script is written
when nothing fails and the names fit.
-/

namespace Overseer.Script

open Overseer.Host Overseer.Host.FileTree Overseer.Os

namespace EphemeralScript

variable {faults : Faults} {root extension source : String} {dir place : Path}
variable {before after files : FileTree} {script : EphemeralScript}

/-! ## The stages -/

/-- **The stages of making a script**, and what is left when one of them is the last. -/
inductive Creates (faults : Faults) (root extension source : String) (before : FileTree) :
    Except OsError EphemeralScript → FileTree → Prop
  /-- the directory cannot be made -/
  | noDirectory {cause : OsError} (directory : makeDirectory faults root before = .error cause) :
      Creates faults root extension source before (.error cause) before
  /-- the file cannot be made -/
  | noFile {cause : OsError} {dir : Path} {tree : FileTree}
      (directory : makeDirectory faults root before = .ok (dir, tree))
      (file : makeFile faults dir extension tree = .error cause) :
      Creates faults root extension source before (.error cause) (discard faults dir tree)
  /-- the source cannot be written -/
  | notFilled {cause : OsError} {dir path : Path} {file : Nat} {tree files : FileTree}
      (directory : makeDirectory faults root before = .ok (dir, tree))
      (hasFile : makeFile faults dir extension tree = .ok (path, file, files))
      (fill : fill faults file source files = .error cause) :
      Creates faults root extension source before (.error cause) (discard faults dir files)
  /-- the script is written -/
  | whole {dir path : Path} {file : Nat} {tree files after : FileTree}
      (directory : makeDirectory faults root before = .ok (dir, tree))
      (hasFile : makeFile faults dir extension tree = .ok (path, file, files))
      (fill : fill faults file source files = .ok after) :
      Creates faults root extension source before (.ok ⟨true, dir, path, source⟩) after

theorem creates_of_run {answer : Except OsError EphemeralScript}
    (created : (create faults root extension source).run before = (answer, after)) :
    Creates faults root extension source before answer after := by
  simp only [create, StateT.run] at created
  split at created
  · next directory =>
    cases created
    exact .noDirectory directory
  · next directory =>
    split at created
    · next file =>
      cases created
      exact .noFile directory file
    · next hasFile =>
      split at created
      · next fill =>
        cases created
        exact .notFilled directory hasFile fill
      · next fill =>
        cases created
        exact .whole directory hasFile fill

theorem live_of_create
    (created : (create faults root extension source).run before = (.ok script, after)) :
    script.live = true := by
  cases creates_of_run created
  rfl

/-! ## A fresh directory -/

/-- A fresh directory stands, and outside of it everything is as it was. -/
structure Made (dir : Path) (before after : FileTree) : Prop where
  fresh : before.node? dir = none
  stands : after.node? dir = some .directory
  alone : ∀ node, (dir, node) ∈ after.nodes → node = .directory
  outside : ∀ p node, ¬dir <+: p → ((p, node) ∈ after.nodes ↔ (p, node) ∈ before.nodes)

theorem made_of_adds (adds : Adds before after dir .directory) : Made dir before after where
  fresh := adds.free
  stands := by rw [adds.node?, if_pos rfl]
  alone node member := by
    rcases adds.mem_nodes.mp member with earlier | new
    · exact absurd earlier (not_mem_nodes_of_free adds.free)
    · cases new
      rfl
  outside p node away := by
    rw [adds.mem_nodes]
    refine or_iff_left fun new => ?_
    cases new
    exact away List.prefix_rfl

/-- What is added below the directory does not matter outside. -/
theorem Made.of_adds {p : Path} {node : Node} (made : Made dir before files) (below : dir <+: p)
    (adds : Adds files after p node) : Made dir before after where
  fresh := made.fresh
  stands := by
    have other : dir ≠ p := by
      rintro rfl
      cases adds.free.symm.trans made.stands
    rw [adds.node?, if_neg other, made.stands]
  alone there member := by
    rcases adds.mem_nodes.mp member with earlier | new
    · exact made.alone there earlier
    · cases new
      cases adds.free.symm.trans made.stands
  outside q there away := by
    rw [adds.mem_nodes, made.outside q there away]
    refine or_iff_left fun new => ?_
    cases new
    exact away below

theorem Made.of_nodes (made : Made dir before files) (same : after.nodes = files.nodes) :
    Made dir before after where
  fresh := made.fresh
  stands := by rw [node?_of_nodes same, made.stands]
  alone := by
    rw [same]
    exact made.alone
  outside := by
    rw [same]
    exact made.outside

theorem ofTree_eq_ok {α : Type} {answer : Except Errno α} {a : α} (ok : ofTree answer = .ok a) :
    answer = .ok a := by
  cases answer with
  | error e => cases ok
  | ok b =>
      cases ok
      rfl

theorem makeDirectory_ok (made : makeDirectory faults root before = .ok (dir, after)) :
    before.Reaches dir ∧ Adds before after dir .directory := by
  obtain ⟨_, -, made⟩ := exists_of_bind_eq_ok made
  obtain ⟨there, -, made⟩ := exists_of_bind_eq_ok made
  -- Giving out a name changes no node.
  obtain ⟨reaches, adds⟩ := FileTree.makeDirectory_ok (ofTree_eq_ok made)
  exact ⟨⟨reaches.parent, reaches.names⟩, ⟨adds.free, adds.nodes⟩⟩

/-- A name that begins with a stem of more than two characters is a plain one. -/
theorem plain_append {stem : String} (long : 2 < stem.length) (rest : String) : Plain (stem ++ rest) := by
  have longer : 2 < (stem ++ rest).length := by
    rw [String.length_append]
    exact Nat.lt_of_lt_of_le long (Nat.le_add_right _ _)
  constructor <;> intro same <;> rw [same] at longer <;> exact absurd longer (by decide)

/-- The file of a script is made in the directory of the script, whatever its name is to end in. -/
theorem makeFile_ok {path : Path} {file : Nat} (standing : files.Standing dir)
    (known : ∀ name ∈ dir, IsName name) (below : dir ≠ [])
    (empty : ∀ p, dir <+: p → p ≠ dir → files.node? p = none)
    (made : makeFile faults dir extension files = .ok (path, file, after)) :
    dir <+: path ∧ files.Reaches path ∧ Adds files after path (.file file) := by
  unfold makeFile at made
  obtain ⟨_, -, made⟩ := exists_of_bind_eq_ok made
  by_cases zero : extension.toList.contains '\x00' = true
  · rw [if_pos zero] at made
    cases made
  · rw [if_neg zero] at made
    dsimp only [freshName] at made
    generalize freshTag _ _ _ _ = n at made
    have noSlash : '/' ∉ fileStem.toList := by decide
    obtain ⟨first, rest, split⟩ := exists_splitPath_append noSlash (tag n ++ octetsOfText extension)
    rw [← String.append_assoc] at split
    obtain ⟨inside, reaches, adds⟩ := createFile_ok (t := { files with nextTag := n + 1 }) standing
      known below empty split (plain_append (by decide) first) (ofTree_eq_ok made)
    exact ⟨inside, ⟨reaches.parent, reaches.names⟩, ⟨adds.free, adds.nodes⟩⟩

theorem fill_ok {file : Nat} (filled : fill faults file source files = .ok after) :
    after.nodes = files.nodes := by
  unfold fill at filled
  obtain ⟨_, -, filled⟩ := exists_of_bind_eq_ok filled
  obtain ⟨_, -, filled⟩ := exists_of_bind_eq_ok filled
  obtain ⟨_, -, filled⟩ := exists_of_bind_eq_ok filled
  cases filled
  rfl

/-- Once the file has been made, the directory is still a fresh one, and the tree is still a tree. -/
theorem made_of_makeFile {path : Path} {file : Nat} (connected : before.Connected)
    (reaches : before.Reaches dir) (adds : Adds before files dir .directory)
    (made : makeFile faults dir extension files = .ok (path, file, after)) :
    Made dir before after ∧ after.Connected := by
  obtain ⟨inside, reachesFile, new⟩ := makeFile_ok (reaches.standing_of_adds adds) reaches.names
    (ne_nil_of_free adds.free) (fun _ below strict => connected.empty_of_adds adds below strict) made
  exact ⟨(made_of_adds adds).of_adds inside new,
    (connected.of_adds reaches adds).of_adds reachesFile new⟩

/-- When a script has been written, its directory is a fresh one. -/
theorem made_of_create (connected : before.Connected)
    (created : (create faults root extension source).run before = (.ok script, after)) :
    Made script.dir before after := by
  cases creates_of_run created with
  | whole directory hasFile fill =>
    obtain ⟨reaches, adds⟩ := makeDirectory_ok directory
    obtain ⟨made, -⟩ := made_of_makeFile connected reaches adds hasFile
    exact made.of_nodes (fill_ok fill)

/-! ## When nothing fails -/

/-- In a directory that has been made, the first name that is tried is free. -/
theorem freshName_of_adds {name : String → String} (connected : before.Connected)
    (adds : Adds before after dir .directory) :
    after.freshName dir name = (name (tag after.nextTag), { after with nextTag := after.nextTag + 1 }) := by
  have empty : after.children dir = [] := by
    rw [List.eq_nil_iff_forall_not_mem]
    rintro ⟨entry, node⟩ member
    have inside : dir ++ [entry] ≠ dir := by simp
    exact not_mem_nodes_of_free
      (connected.empty_of_adds adds (List.prefix_append _ _) inside) (mem_children.mp member)
  rw [freshName, empty]
  rfl

theorem exists_makeDirectory_ok {name : String} (standing : before.Standing place)
    (known : ∀ name ∈ place, IsName name) (below : place ≠ [])
    (named : (before.freshName place (directoryStem ++ ·)).1 = name) (fits : IsName name)
    (short : (place.text ++ "/" ++ name).length ≤ maxPath)
    (free : before.node? (place ++ [name]) = none) :
    ∃ made, makeDirectory {} place.text before = .ok (place ++ [name], made) ∧
      Adds before made (place ++ [name]) .directory ∧
      made.nextTag = (before.freshName place (directoryStem ++ ·)).2.nextTag := by
  have rootShort : place.text.length ≤ maxPath := by
    simp only [String.length_append] at short
    omega
  have entry := makeDirectory_entry (t := (before.freshName place (directoryStem ++ ·)).2) standing
    known below fits short free
  rw [makeDirectory, resolve_text standing known below rootShort]
  dsimp only [fail?, ofTree, bind, Except.bind]
  rw [named, entry]
  exact ⟨_, rfl, ⟨free, (adds_insert free).nodes⟩, rfl⟩

theorem exists_makeFile_ok {name : String} (standing : files.Standing dir)
    (known : ∀ name ∈ dir, IsName name) (below : dir ≠ [])
    (noZero : extension.toList.contains '\x00' = false)
    (named : (files.freshName dir fun tag => fileStem ++ tag ++ octetsOfText extension).1 = name)
    (fits : IsName name) (short : (dir.text ++ "/" ++ name).length ≤ maxPath)
    (free : files.node? (dir ++ [name]) = none) :
    ∃ file made, makeFile {} dir extension files = .ok (dir ++ [name], file, made) ∧
      made.nextTag = (files.freshName dir fun tag => fileStem ++ tag ++ octetsOfText extension).2.nextTag := by
  obtain ⟨made, entry, tagged⟩ := exists_createFile_entry
    (t := (files.freshName dir fun tag => fileStem ++ tag ++ octetsOfText extension).2) standing
    known below fits short free 0o600
  rw [makeFile]
  dsimp only [fail?, bind, Except.bind]
  rw [noZero, if_neg Bool.false_ne_true, named, entry]
  exact ⟨_, _, rfl, tagged⟩

/-- When nothing fails and the names fit, the script is written. -/
theorem exists_create_ok (extension source : String) {name file : String} (connected : before.Connected)
    (standing : before.Standing place) (known : ∀ name ∈ place, IsName name) (below : place ≠ [])
    (named : (before.freshName place (directoryStem ++ ·)).1 = name) (fits : IsName name)
    (short : (place.text ++ "/" ++ name).length ≤ maxPath)
    (free : before.node? (place ++ [name]) = none)
    (noZero : extension.toList.contains '\x00' = false)
    (fileNamed : fileStem ++ tag (before.freshName place (directoryStem ++ ·)).2.nextTag ++
      octetsOfText extension = file)
    (fileFits : IsName file) (fileShort : ((place ++ [name]).text ++ "/" ++ file).length ≤ maxPath) :
    ∃ script after, (create {} place.text extension source).run before = (.ok script, after) ∧
      script.path = place ++ [name] ++ [file] ∧
      after.nextTag = (before.freshName place (directoryStem ++ ·)).2.nextTag + 1 := by
  obtain ⟨made, directory, adds, tagged⟩ :=
    exists_makeDirectory_ok standing known below named fits short free
  have reaches := standing.reaches_append_singleton known fits
  have first (name : String → String) : made.freshName (place ++ [_]) name = _ :=
    freshName_of_adds connected adds
  have fileFree : made.node? (place ++ [name] ++ [file]) = none :=
    connected.empty_of_adds adds (List.prefix_append _ _) (by simp)
  obtain ⟨id, withFile, hasFile, counted⟩ := exists_makeFile_ok (reaches.standing_of_adds adds)
    reaches.names (by simp) noZero (by rw [first, tagged, fileNamed]) fileFits fileShort fileFree
  rw [first, tagged] at counted
  simp only [create, StateT.run, directory, hasFile]
  exact ⟨_, _, rfl, rfl, counted⟩

/-- A script whose source cannot be written is not made. -/
theorem exists_error_of_write {cause : OsError} (fails : faults.write = some cause)
    (root extension source : String) (before : FileTree) :
    ∃ cause after, (create faults root extension source).run before = (.error cause, after) := by
  rcases created : (create faults root extension source).run before with ⟨cause | script, after⟩
  · exact ⟨cause, after, rfl⟩
  · cases creates_of_run created with
    | whole directory hasFile fill =>
      rw [EphemeralScript.fill, fails] at fill
      cases fill

end EphemeralScript

/-- A system that has a place for scripts, and nothing else. -/
def bare : FileTree := { nodes := [(["tmp"], .directory)] }

theorem eq_of_find_bare {there : Path} (found : bare.find [] "/tmp" true = .ok (there, .directory)) :
    there = ["tmp"] :=
  eq_of_find_text (by decide) (by decide) (by decide) (by decide) found

end Overseer.Script
