import Overseer.Proofs.Host.Entries
import Overseer.Proofs.Host.SoundTrees
import Overseer.Proofs.Script.Leftovers

/-!
# What making and removing a script do to the files

Making a script either adds exactly two nodes, the directory and the file with the source in it
(`Written`), or none (`Undone`); which of the two it is depends on where it fails, if it does.  Removing a
script takes away its directory with everything in it, or nothing when that is gone already.

In all cases the tree stays sound, and outside of the directory of the script nothing has changed.
-/

namespace Overseer.Script

open Overseer.Host Overseer.Host.FileTree Overseer.Os

namespace EphemeralScript

variable {faults : Faults} {root extension source : String} {dir place path : Path}
variable {before after files : FileTree} {script : EphemeralScript} {cause : OsError} {file : Nat}

/-! ## The fresh names -/

/-- Where the next script directory under a place will be. -/
def freshDirectory (files : FileTree) (place : Path) : Path :=
  place ++ [(files.freshName place (directoryStem ++ ·)).1]

/-- A directory for a script is the fresh one under the place to which the root leads. -/
theorem makeDirectory_exact (made : makeDirectory faults root before = .ok (dir, after)) :
    (∃ place, before.find [] root true = .ok (place, .directory) ∧
      (before.node? (freshDirectory before place) = none → dir = freshDirectory before place)) ∧
      after.files = before.files ∧ after.nextFile = before.nextFile := by
  obtain ⟨_, -, made⟩ := exists_of_bind_eq_ok made
  obtain ⟨place, resolved, made⟩ := exists_of_bind_eq_ok made
  have resolved := ofTree_eq_ok resolved
  dsimp only [freshName] at made
  have fresh : freshDirectory before place = place ++ [directoryStem ++ tag (freshTag
      ((before.children place).map (·.1)) (directoryStem ++ ·)
      ((before.children place).map (·.1)).length before.nextTag)] := rfl
  generalize freshTag _ _ _ _ = n at made fresh
  have made := ofTree_eq_ok made
  have noSlash : '/' ∉ (directoryStem ++ tag n).toList := by
    rw [String.toList_append, List.mem_append]
    exact not_or.mpr ⟨by decide, slash_not_mem_tag n⟩
  have there : ({ before with nextTag := n + 1 } : FileTree).resolve [] root true = .ok place := by
    rw [← resolved]
    refine resolve_of_nodes ?_ _ _ _
    rfl
  obtain ⟨directory, lies⟩ := makeDirectory_under there (plain_append (by decide) _) noSlash made
  refine ⟨⟨place, ?_, ?_⟩, ?_⟩
  · have stands : before.node? place = some .directory := directory
    rw [find, resolved]
    simp only [bind, Except.bind, stands]
  · rw [fresh]
    exact lies
  · obtain ⟨there, -, made⟩ := exists_of_bind_eq_ok made
    split at made
    · cases made
    · cases made
      exact ⟨rfl, rfl⟩

/-- The file of a script has a fresh name with the extension at its end. -/
theorem makeFile_exact (standing : files.Standing dir) (known : ∀ name ∈ dir, IsName name)
    (below : dir ≠ []) (empty : ∀ p, dir <+: p → p ≠ dir → files.node? p = none)
    (made : makeFile faults dir extension files = .ok (path, file, after)) :
    (∃ n, path = dir ++ [fileStem ++ tag n ++ octetsOfText extension]) ∧ file = files.nextFile ∧
      after.nextFile = files.nextFile + 1 ∧
      after.files = (files.nextFile, { mode := 0o600 }) :: files.files := by
  unfold makeFile at made
  obtain ⟨_, -, made⟩ := exists_of_bind_eq_ok made
  by_cases zero : extension.toList.contains '\x00' = true
  · rw [if_pos zero] at made
    cases made
  · rw [if_neg zero] at made
    dsimp only [freshName] at made
    generalize freshTag _ _ _ _ = n at made
    have noSlash : '/' ∉ fileStem.toList := by decide
    obtain ⟨first, rest, split⟩ := exists_splitPath_append noSlash (tag n ++ octetsOfText extension)
    rw [← String.append_assoc] at split
    obtain ⟨named, exact_⟩ := createFile_under (t := { files with nextTag := n + 1 }) standing known
      below empty split (plain_append (by decide) first) (ofTree_eq_ok made)
    exact ⟨⟨n, named⟩, exact_⟩

/-- A file that has been filled has the bytes of the source, and all others have what they had. -/
theorem fill_exact {c : Contents} {rest : List (Nat × Contents)} (new : files.files = (file, c) :: rest)
    (nothing : c.bytes = .empty) (filled : fill faults file source files = .ok after) :
    after.nextFile = files.nextFile ∧ (after.contents file).bytes = source.toUTF8 ∧
      ∀ n, n ≠ file → after.contents n = files.contents n := by
  unfold fill at filled
  obtain ⟨_, -, filled⟩ := exists_of_bind_eq_ok filled
  obtain ⟨_, -, filled⟩ := exists_of_bind_eq_ok filled
  obtain ⟨_, -, filled⟩ := exists_of_bind_eq_ok filled
  cases filled
  refine ⟨rfl, ?_, fun n other => contents_modifyContents_of_ne other _⟩
  rw [writeAt, contents_modifyContents_of_cons new]
  refine ByteArray.ext ?_
  simp [nothing, ByteArray.data_append, ByteArray.data_extract]

/-! ## A script that is made -/

/-- **A script that has been written** in a place: its directory and its file are all that is new. -/
structure Written (place : Path) (extension source : String) (script : EphemeralScript)
    (before after : FileTree) : Prop where
  live : script.live = true
  dir : script.dir = freshDirectory before place
  path : ∃ n, script.path = script.dir ++ [fileStem ++ tag n ++ octetsOfText extension]
  free : before.node? script.dir = none
  nodes : after.nodes =
    before.nodes ++ [(script.dir, .directory), (script.path, .file before.nextFile)]
  bytes : (after.contents before.nextFile).bytes = source.toUTF8
  others : ∀ n, n ≠ before.nextFile → after.contents n = before.contents n
  sound : after.Sound

/-- **Nothing is left** of a script that could not be written. -/
structure Undone (before after : FileTree) : Prop where
  nodes : after.nodes = before.nodes
  contents : ∀ n, n < before.nextFile → after.contents n = before.contents n
  later : before.nextFile ≤ after.nextFile

theorem discard_of_directory (removes : faults.removal = none)
    (stands : files.node? dir = some .directory) :
    discard faults dir files = files.eraseIf dir.within := by
  rw [discard, remove, removes]
  simp only [fail?, bind, Except.bind, removeTree, stands, ofTree]

theorem discard_of_gone (removes : faults.removal = none) (gone : files.node? dir = none) :
    discard faults dir files = files := by
  rw [discard, remove, removes]
  simp only [fail?, bind, Except.bind, removeTree, gone, ofTree]

/-- A directory that has been added is taken away with what has been added to it, and then nothing is left of
it. -/
theorem undone_of_discard {added : List (Path × Node)} (removes : faults.removal = none)
    (connected : before.Connected) (free : before.node? dir = none)
    (stands : files.node? dir = some .directory) (nodes : files.nodes = before.nodes ++ added)
    (inside : ∀ x ∈ added, dir <+: x.1)
    (contents : ∀ n, n < before.nextFile → files.contents n = before.contents n)
    (later : before.nextFile ≤ files.nextFile) : Undone before (discard faults dir files) := by
  have kept : before.nodes.filter (fun e => !dir.within e.1) = before.nodes := by
    rw [List.filter_eq_self]
    rintro ⟨p, node⟩ member
    rw [Bool.not_eq_true', Bool.eq_false_iff]
    intro within
    exact connected.not_mem_below free (List.isPrefixOf_iff_prefix.mp within) member
  have lost : added.filter (fun e => !dir.within e.1) = [] := by
    rw [List.filter_eq_nil_iff]
    intro x member
    simpa [Path.within] using List.isPrefixOf_iff_prefix.mpr (inside x member)
  rw [discard_of_directory removes stands]
  refine ⟨?_, contents, later⟩
  rw [eraseIf, nodes, List.filter_append, kept, lost, List.append_nil]

/-- The directory and the file of a script, once both have been made. -/
structure Begun (extension : String) (dir path : Path) (file : Nat) (before files : FileTree) : Prop where
  named : ∃ n, path = dir ++ [fileStem ++ tag n ++ octetsOfText extension]
  number : file = before.nextFile
  stands : files.node? dir = some .directory
  nodes : files.nodes = before.nodes ++ [(dir, .directory), (path, .file file)]
  contents : files.files = (file, { mode := 0o600 }) :: before.files
  later : files.nextFile = before.nextFile + 1
  sound : files.Sound

theorem begun_of_makeFile {tree : FileTree} (sound : before.Sound)
    (directory : makeDirectory faults root before = .ok (dir, tree))
    (hasFile : makeFile faults dir extension tree = .ok (path, file, files)) :
    Begun extension dir path file before files := by
  obtain ⟨reaches, adds⟩ := makeDirectory_ok directory
  obtain ⟨-, sameFiles, sameNext⟩ := makeDirectory_exact directory
  have standing := reaches.standing_of_adds adds
  have below := ne_nil_of_free adds.free
  have empty : ∀ p, dir <+: p → p ≠ dir → tree.node? p = none :=
    fun _ inside strict => sound.connected.empty_of_adds adds inside strict
  obtain ⟨inside, reachesFile, new⟩ := makeFile_ok standing reaches.names below empty hasFile
  obtain ⟨named, rfl, later, newFiles⟩ := makeFile_exact standing reaches.names below empty hasFile
  have soundTree : tree.Sound := sound.of_adds reaches adds sameNext.ge nofun
  constructor
  case named => exact named
  case number => exact sameNext
  case stands => exact ((made_of_adds adds).of_adds inside new).stands
  case nodes => rw [new.nodes, adds.nodes, List.append_assoc]; rfl
  case contents => rw [newFiles, sameFiles]
  case later => rw [later, sameNext]
  case sound =>
    refine soundTree.of_adds reachesFile new (by omega) fun id same => ?_
    cases same
    omega

theorem contents_of_begun (begun : Begun extension dir path file before files) {n : Nat}
    (other : n ≠ file) : files.contents n = before.contents n := by
  rw [FileTree.contents, begun.contents, List.lookup_cons, beq_false_of_ne other, FileTree.contents]

/-- A script is made only where its root leads to a directory. -/
theorem find_of_create (created : (create faults root extension source).run before = (.ok script, after)) :
    ∃ there, before.find [] root true = .ok (there, .directory) := by
  cases creates_of_run created with
  | whole directory =>
    obtain ⟨⟨there, found, -⟩, -⟩ := makeDirectory_exact directory
    exact ⟨there, found⟩

/-- **Making a script adds its directory and its file**, when the name of the directory is free. -/
theorem written_of_create (sound : before.Sound)
    (leads : ∀ there, before.find [] root true = .ok (there, .directory) → there = place)
    (free : before.node? (freshDirectory before place) = none)
    (created : (create faults root extension source).run before = (.ok script, after)) :
    Written place extension source script before after := by
  cases creates_of_run created with
  | whole directory hasFile fill =>
    obtain ⟨⟨there, found, lies⟩, -⟩ := makeDirectory_exact directory
    obtain rfl := leads there found
    have begun := begun_of_makeFile sound directory hasFile
    obtain ⟨later, bytes, others⟩ := fill_exact begun.contents rfl fill
    have nodes := (fill_ok fill).trans begun.nodes
    have number := begun.number
    constructor
    case live => rfl
    case dir => exact lies free
    case path => exact begun.named
    case free => exact (makeDirectory_ok directory).2.free
    case nodes => rw [nodes, number]
    case bytes => rw [← number, bytes]
    case others =>
      intro n other
      rw [← number] at other
      rw [others n other, contents_of_begun begun other]
    case sound => exact begun.sound.of_nodes (fill_ok fill) later.ge

/-- **A script that could not be written leaves nothing**, whatever failed. -/
theorem undone_of_create (sound : before.Sound) (removes : faults.removal = none)
    (created : (create faults root extension source).run before = (.error cause, after)) :
    Undone before after := by
  cases creates_of_run created with
  | noDirectory => exact ⟨rfl, fun _ _ => rfl, Nat.le_refl _⟩
  | @noFile _ dir tree directory =>
    obtain ⟨-, adds⟩ := makeDirectory_ok directory
    obtain ⟨-, sameFiles, sameNext⟩ := makeDirectory_exact directory
    have stands : tree.node? dir = some .directory := (made_of_adds adds).stands
    refine undone_of_discard removes sound.connected adds.free stands adds.nodes (by simp) ?_ sameNext.ge
    intro n _
    rw [contents, contents, sameFiles]
  | @notFilled _ dir path file tree files directory hasFile =>
    obtain ⟨-, adds⟩ := makeDirectory_ok directory
    have begun := begun_of_makeFile sound directory hasFile
    have below : dir <+: path := by
      obtain ⟨n, rfl⟩ := begun.named
      exact List.prefix_append _ _
    refine undone_of_discard removes sound.connected adds.free begun.stands begun.nodes
      (by simpa using below) ?_ ((Nat.le_succ _).trans begun.later.ge)
    intro n earlier
    refine contents_of_begun begun ?_
    rw [begun.number]
    exact Nat.ne_of_lt earlier

/-! ## What stays as it was -/

namespace Written

/-- Outside of its directory, a script that is written leaves everything alone. -/
theorem agree (written : Written place extension source script before after) (sound : before.Sound) :
    Agree (¬script.dir <+: ·) before after where
  nodes p node away := by
    obtain ⟨n, named⟩ := written.path
    rw [written.nodes, List.mem_append, named]
    refine or_iff_left fun new => away ?_
    rcases List.mem_pair.mp new with directory | file
    · exact (Prod.mk.inj directory).1 ▸ List.prefix_rfl
    · exact (Prod.mk.inj file).1 ▸ List.prefix_append _ _
  contents p id _ member := written.others id (Nat.ne_of_lt (sound.numbered p id member))

theorem node?_dir (written : Written place extension source script before after) :
    after.node? script.dir = some .directory := by
  refine (written.sound.node?_eq_some_iff (ne_nil_of_free written.free)).mpr ?_
  rw [written.nodes]
  simp

/-- The file is all that is in the directory. -/
theorem children_dir (written : Written place extension source script before after)
    (sound : before.Sound) : ∃ name, script.path = script.dir ++ [name] ∧
      (octetsOfText extension).toList <:+ name.toList ∧
      after.children script.dir = [(name, .file before.nextFile)] := by
  obtain ⟨n, named⟩ := written.path
  refine ⟨_, named, ⟨(fileStem ++ tag n).toList, String.toList_append.symm⟩, ?_⟩
  have none : before.children script.dir = [] := by
    rw [List.eq_nil_iff_forall_not_mem]
    rintro ⟨name, node⟩ member
    exact sound.connected.not_mem_below written.free (List.prefix_append _ _) (mem_children.mp member)
  -- The directory itself is an entry of another one.
  have apart : script.dir.dropLast ≠ script.dir := by
    rw [written.dir, freshDirectory, List.dropLast_concat]
    simp
  rw [children, written.nodes, List.filterMap_append, ← children, none, named]
  simp [apart, Path.parent, Path.fileName]

end Written

/-- A script that could not be written leaves everything alone. -/
theorem Undone.agree (undone : Undone before after) (sound : before.Sound) :
    Agree (fun _ => True) before after where
  nodes p node _ := by rw [undone.nodes]
  contents p id _ member := undone.contents id (sound.numbered p id member)

theorem Undone.sound (undone : Undone before after) (sound : before.Sound) : after.Sound :=
  sound.of_nodes undone.nodes undone.later

theorem children_of_nodes (same : after.nodes = before.nodes) (place : Path) :
    after.children place = before.children place := by
  rw [children, same, children]

theorem sound_discard (sound : files.Sound) : (discard faults dir files).Sound := by
  rcases discard_eq_or with removed | same
  · rw [removed]
    exact sound.eraseIf_within
  · rw [same]
    exact sound

/-- Removing a directory leaves everything outside of it alone. -/
theorem agree_discard : Agree (¬dir <+: ·) files (discard faults dir files) := by
  rcases discard_eq_or with removed | same
  · rw [removed]
    exact Agree.eraseIf_within
  · rw [same]
    exact Agree.refl _ _

/-- Behind its removal, a directory is gone. -/
theorem node?_discard (sound : files.Sound) (removes : faults.removal = none) (below : dir ≠ [])
    (directory : files.node? dir = some .directory ∨ files.node? dir = none) :
    (discard faults dir files).node? dir = none := by
  rcases directory with stands | gone
  · refine Option.eq_none_iff_forall_ne_some.mpr fun node there => ?_
    rw [(sound_discard sound).node?_eq_some_iff below, mem_nodes_discard removes] at there
    exact there.2 stands List.prefix_rfl
  · rw [discard_of_gone removes gone, gone]

end EphemeralScript

end Overseer.Script
