import Overseer.Proofs.Script.Holdings

/-!
# Scripts own exactly their directories

Whatever is done to any number of scripts in one place, everything is in order after it
(`orderly_of_runs`), since it is at the beginning and stays so.  `scripts_own_their_directories` says what
that comes to: which directories there are, what a script that is made or cannot be made does to the place,
that scripts keep out of the way of each other, and that to clean up again is harmless.
-/

namespace Overseer.Script

open Overseer.Host Overseer.Host.FileTree Overseer.Os

variable {place : Path} {start : FileTree} {w : Workshop} {deeds : List Deed} {i : Nat} {faults : Faults}

/-- **Everything is in order after every run.** -/
theorem orderly_of_runs (sound : start.Sound) (standing : start.Standing place)
    (runs : Runs place start deeds w) : Orderly place start w := by
  induction runs with
  | nil => exact Orderly.begin sound standing
  | snoc _ allowed orderly => exact orderly.of_outcome sound (orderly.outcome allowed)

/-- A script that was cleaned up at some time is used up. -/
theorem used_of_runs (sound : start.Sound) (standing : start.Standing place)
    (runs : Runs place start deeds w) (cleaned : .cleanup faults i ∈ deeds) :
    ∃ h, w.holdings[i]? = some h ∧ h.script.live = false := by
  induction runs with
  | nil => cases cleaned
  | @snoc _ w deed earlier allowed ih =>
    rcases List.mem_append.mp cleaned with before | last
    · obtain ⟨h, there, used⟩ := ih before
      have orderly := orderly_of_runs sound standing earlier
      exact Orderly.used_of_outcome (orderly.outcome allowed) there used
    · obtain rfl := List.mem_singleton.mp last
      obtain ⟨-, h, there, -⟩ := allowed
      have within := (List.getElem?_eq_some_iff.mp there).1
      cases live : h.script.live with
      | true =>
        rw [Workshop.perform_cleanup there live, List.getElem?_set, if_pos rfl, if_pos within]
        exact ⟨_, rfl, rfl⟩
      | false =>
        rw [Workshop.perform_cleanup_of_used there live, List.getElem?_set, if_pos rfl, if_pos within]
        exact ⟨h, rfl, live⟩

/-- **Scripts own exactly their directories.**  After every run the place has the entries from before and
the directories of the scripts that keep theirs, all of them different and new.  From there on,

* a script that is made has a directory of its own in the place, with the file of the source alone in it,
* a script that cannot be made leaves the place as it was,
* what is done to one script leaves the directories of the others as they are,
* to clean up once more is fine, and does nothing. -/
theorem scripts_own_their_directories (sound : start.Sound) (standing : start.Standing place)
    (runs : Runs place start deeds w) :
    (∀ name node, (name, node) ∈ w.files.children place ↔
      (name, node) ∈ start.children place ∨
        node = .directory ∧ ∃ h ∈ w.holdings, h.keeps = true ∧ h.script.dir = place ++ [name]) ∧
    w.dirs.Nodup ∧
    (∀ dir ∈ w.dirs, ∃ name, dir = place ++ [name] ∧
      ∀ node, (name, node) ∉ start.children place) ∧
    (∀ faults root extension source script files,
      Allows place w (.create faults root extension source) →
      (EphemeralScript.create faults root extension source).run w.files = (.ok script, files) →
        w.files.find [] root true = .ok (place, .directory) ∧
        ∃ name file, script.dir = place ++ [name] ∧ script.path = script.dir ++ [file] ∧
          (octetsOfText extension).toList <:+ file.toList ∧
          files.children script.dir = [(file, .file w.files.nextFile)] ∧
          (files.contents w.files.nextFile).bytes = source.toUTF8) ∧
    (∀ faults root extension source cause files,
      Allows place w (.create faults root extension source) →
      (EphemeralScript.create faults root extension source).run w.files = (.error cause, files) →
        files.children place = w.files.children place) ∧
    (∀ deed j x, Allows place w deed → w.holdings[j]? = some x → deed.concerns ≠ some j →
      Agree (x.script.dir <+: ·) w.files (w.perform deed).files) ∧
    ∀ earlier i, .cleanup earlier i ∈ deeds → ∃ h, w.holdings[i]? = some h ∧
      ∀ faults, (h.script.cleanup faults).run w.files = ((.ok (), h.script), w.files) := by
  have orderly := orderly_of_runs sound standing runs
  refine ⟨fun _ _ => orderly.mem_children, orderly.distinct, ?_, ?_, ?_, ?_, ?_⟩
  · intro dir member
    have new := orderly.new dir member
    obtain ⟨name, rfl⟩ := orderly.inPlace dir member
    refine ⟨name, rfl, fun node earlier => ?_⟩
    exact not_mem_nodes_of_free new (FileTree.mem_children.mp earlier)
  · intro faults root extension source script files allowed created
    obtain ⟨-, leads, free, -⟩ := allowed
    obtain ⟨there, found⟩ := EphemeralScript.find_of_create created
    obtain rfl := leads there found
    have written := EphemeralScript.written_of_create orderly.sound leads free created
    obtain ⟨file, path, ends, alone⟩ := written.children_dir orderly.sound
    exact ⟨found, _, file, written.dir, path, ends, alone, written.bytes⟩
  · intro faults root extension source cause files allowed created
    have undone := EphemeralScript.undone_of_create orderly.sound allowed.1 created
    exact EphemeralScript.children_of_nodes undone.nodes place
  · intro deed j x allowed there different
    exact orderly.agree_of_outcome (orderly.outcome allowed) there different
  · intro earlier i cleaned
    obtain ⟨h, there, used⟩ := used_of_runs sound standing runs cleaned
    refine ⟨h, there, fun faults => ?_⟩
    simp only [EphemeralScript.cleanup, StateT.run, used, Bool.false_eq_true, if_false]

theorem sound_bare : bare.Sound where
  connected := by decide
  unique := by decide
  numbered := by simp [bare]

/-! ### Two scripts, and somebody else -/

/-- One more script can be made when its names fit. -/
theorem exists_next_script (extension source : String) {name file : String} (sound : start.Sound)
    (standing : start.Standing place) (runs : Runs place start deeds w)
    (known : ∀ name ∈ place, IsName name) (below : place ≠ [])
    (named : (w.files.freshName place (directoryStem ++ ·)).1 = name) (fits : IsName name)
    (short : (place.text ++ "/" ++ name).length ≤ maxPath)
    (free : w.files.node? (place ++ [name]) = none) (fresh : place ++ [name] ∉ w.dirs)
    (noZero : extension.toList.contains '\x00' = false)
    (fileNamed : fileStem ++ tag (w.files.freshName place (directoryStem ++ ·)).2.nextTag ++
      octetsOfText extension = file)
    (fileFits : IsName file) (fileShort : ((place ++ [name]).text ++ "/" ++ file).length ≤ maxPath) :
    ∃ script files, Runs place start (deeds ++ [.create {} place.text extension source])
        ⟨files, w.holdings ++ [{ script := script }]⟩ ∧
      script.live = true ∧ script.dir = place ++ [name] ∧
      files.nodes = w.files.nodes ++ [(place ++ [name], .directory),
        (place ++ [name] ++ [file], .file w.files.nextFile)] ∧
      files.nextTag = (w.files.freshName place (directoryStem ++ ·)).2.nextTag + 1 := by
  have orderly := orderly_of_runs sound standing runs
  obtain ⟨script, files, created, path, counted⟩ := EphemeralScript.exists_create_ok extension source
    orderly.sound.connected orderly.standing known below named fits short free noZero fileNamed fileFits
    fileShort
  have rootShort : place.text.length ≤ maxPath := by
    simp only [String.length_append] at short
    omega
  have leads : ∀ there, w.files.find [] place.text true = .ok (there, .directory) → there = place :=
    fun there found => eq_of_find_text orderly.standing known below rootShort found
  have next : EphemeralScript.freshDirectory w.files place = place ++ [name] := by
    rw [EphemeralScript.freshDirectory, named]
  have written := EphemeralScript.written_of_create orderly.sound leads (next ▸ free) created
  have dir : script.dir = place ++ [name] := written.dir.trans next
  have allowed : Allows place w (.create {} place.text extension source) :=
    ⟨rfl, leads, next ▸ free, next ▸ fresh⟩
  have run := runs.snoc allowed
  rw [Workshop.perform_create created] at run
  exact ⟨script, files, run, written.live, dir, by rw [written.nodes, dir, path], counted⟩

/-- A fresh name depends on nothing but the names that are there and the count. -/
theorem freshName_of_names {a b : FileTree} {dir : Path} (counts : a.nextTag = b.nextTag)
    (names : (a.children dir).map (·.1) = (b.children dir).map (·.1)) (name : String → String) :
    (a.freshName dir name).1 = (b.freshName dir name).1 ∧
      (a.freshName dir name).2.nextTag = (b.freshName dir name).2.nextTag := by
  simp only [freshName, counts, names, and_self]

/-- The tree of `bare` with a script in it. -/
def bareWithOne : FileTree where
  nodes := bare.nodes ++ [(["tmp", "hostexecaaaaaa"], .directory),
    (["tmp", "hostexecaaaaaa", ".tmpbaaaaa.sh"], .file 0)]
  nextTag := 2

/-- The tree of `bare` with two scripts in it. -/
def bareWithTwo : FileTree where
  nodes := bareWithOne.nodes ++ [(["tmp", "hostexeccaaaaa"], .directory),
    (["tmp", "hostexeccaaaaa", ".tmpdaaaaa.py"], .file 1)]
  nextTag := 4

/-- Two scripts are made. -/
theorem exists_two_scripts : ∃ first second files,
    Runs ["tmp"] bare [.create {} "/tmp" ".sh" "true", .create {} "/tmp" ".py" "pass"]
      ⟨files, [{ script := first }, { script := second }]⟩ ∧
    (first.live = true ∧ first.dir = ["tmp", "hostexecaaaaaa"]) ∧
    (second.live = true ∧ second.dir = ["tmp", "hostexeccaaaaa"]) ∧
    files.nextTag = bareWithTwo.nextTag ∧
    (files.children ["tmp"]).map (·.1) = (bareWithTwo.children ["tmp"]).map (·.1) := by
  have tmp : Path.text ["tmp"] = "/tmp" := by decide
  have start : Runs ["tmp"] bare [] ⟨bare, []⟩ := .nil
  obtain ⟨first, one, made, live, dir, nodes, count⟩ := exists_next_script ".sh" "true" sound_bare
    (by decide) start (by decide) (by decide) rfl (by decide) (by decide) (by decide) List.not_mem_nil
    (by decide) rfl (by decide) (by decide)
  have shape : one.nodes = bareWithOne.nodes := nodes
  have names : (one.children ["tmp"]).map (·.1) = (bareWithOne.children ["tmp"]).map (·.1) := by
    rw [FileTree.children, shape, FileTree.children]
  obtain ⟨next, last⟩ := freshName_of_names count names (directoryStem ++ ·)
  have named : (one.freshName ["tmp"] (directoryStem ++ ·)).1 = "hostexeccaaaaa" := next.trans (by decide)
  have fileNamed : fileStem ++ tag (one.freshName ["tmp"] (directoryStem ++ ·)).2.nextTag ++
      octetsOfText ".py" = ".tmpdaaaaa.py" := by
    rw [last]
    decide
  have fresh : ["tmp"] ++ ["hostexeccaaaaa"] ∉ [first.dir] := by
    rw [List.mem_singleton, dir]
    decide
  obtain ⟨second, two, made, live', dir', nodes', count'⟩ := exists_next_script ".py" "pass" sound_bare
    (by decide) made (by decide) (by decide) named (by decide) (by decide)
    ((node?_of_nodes shape).trans (by decide)) fresh (by decide) fileNamed (by decide) (by decide)
  rw [tmp] at made
  refine ⟨first, second, two, made, ⟨live, dir⟩, ⟨live', dir'⟩, ?_, ?_⟩
  · rw [count', last]
    decide
  · rw [FileTree.children, nodes', shape]
    rfl

/-- A third script fails while its source is written. -/
theorem exists_failed_third : ∃ first second files,
    Runs ["tmp"] bare [.create {} "/tmp" ".sh" "true", .create {} "/tmp" ".py" "pass",
      .create { write := some (.ofErrno .noSpace) } "/tmp" ".rb" "exit"]
      ⟨files, [{ script := first }, { script := second }]⟩ ∧
    first.live = true ∧ second.live = true := by
  obtain ⟨first, second, two, made, ⟨live, dir⟩, ⟨live', dir'⟩, count, names⟩ := exists_two_scripts
  have orderly := orderly_of_runs sound_bare (by decide) made
  have next : EphemeralScript.freshDirectory two ["tmp"] = ["tmp", "hostexeceaaaaa"] := by
    rw [EphemeralScript.freshDirectory, (freshName_of_names count names _).1]
    decide
  have free : two.node? (["tmp"] ++ ["hostexeceaaaaa"]) = none := by
    refine Option.eq_none_iff_forall_ne_some.mpr fun node there => ?_
    have entry := FileTree.mem_children.mpr ((orderly.sound.node?_eq_some_iff (by simp)).mp there)
    have name : "hostexeceaaaaa" ∈ (two.children ["tmp"]).map (·.1) := List.mem_map_of_mem entry
    rw [names] at name
    exact absurd name (by decide)
  have allowed : Allows ["tmp"] ⟨two, [{ script := first }, { script := second }]⟩
      (.create { write := some (.ofErrno .noSpace) } "/tmp" ".rb" "exit") := by
    refine ⟨rfl, fun _ found => ?_, next ▸ free, ?_⟩
    · exact eq_of_find_text orderly.standing (by decide) (by decide) (by decide) found
    · rw [next, Workshop.dirs, List.map_cons, List.map_singleton, dir, dir']
      decide
  have full : ({ write := some (.ofErrno .noSpace) } : Faults).write = some (.ofErrno .noSpace) := rfl
  obtain ⟨cause, files, failed⟩ := EphemeralScript.exists_error_of_write full "/tmp" ".rb" "exit" two
  have run := made.snoc allowed
  rw [Workshop.perform_create_of_error failed] at run
  exact ⟨first, second, files, run, live, live'⟩

/-- Of two scripts nothing is left when somebody else takes away the directory of the first, which is cleaned
up then, and the second is dropped; a third could not be made before.  The first can be cleaned up again. -/
theorem nothing_left_of_two_scripts : ∃ without w first second,
    Runs ["tmp"] bare [.create {} "/tmp" ".sh" "true", .create {} "/tmp" ".py" "pass",
      .create { write := some (.ofErrno .noSpace) } "/tmp" ".rb" "exit", .meddle 0 without,
      .cleanup {} 0, .drop {} 1] w ∧
    w.holdings = [first, second] ∧ first.robbed = true ∧ second.dropped = true ∧
    w.files.children ["tmp"] = [] ∧
    ∀ faults, (first.script.cleanup faults).run w.files = ((.ok (), first.script), w.files) := by
  have place : bare.Standing ["tmp"] := by decide
  obtain ⟨first, second, files, made, live, live'⟩ := exists_failed_third
  have orderly := orderly_of_runs sound_bare place made
  have stood : files.node? first.dir = some .directory := by
    have held := orderly.held { script := first } (by simp)
    rwa [Holding.held, Holding.keeps, live] at held
  have below : first.dir ≠ [] := orderly.dir_ne_nil (List.mem_of_getElem? (i := 0) rfl)
  let without := EphemeralScript.discard {} first.dir files
  have gone : without.node? first.dir = none :=
    EphemeralScript.node?_discard orderly.sound rfl below (.inl stood)
  have meddles : Meddles first.dir files without :=
    ⟨stood, EphemeralScript.sound_discard orderly.sound, EphemeralScript.agree_discard, .inr gone⟩
  have robbed := made.snoc (show Allows _ _ (.meddle 0 without) from ⟨_, rfl, meddles⟩)
  rw [Workshop.perform_meddle rfl, gone] at robbed
  have cleaned := robbed.snoc (show Allows _ _ (.cleanup {} 0) from ⟨rfl, _, rfl, rfl⟩)
  rw [Workshop.perform_cleanup rfl live] at cleaned
  have dropped := cleaned.snoc (show Allows _ _ (.drop {} 1) from ⟨rfl, _, rfl, rfl⟩)
  rw [Workshop.perform_drop rfl live'] at dropped
  obtain ⟨entries, -, -, -, -, -, again⟩ := scripts_own_their_directories sound_bare place dropped
  refine ⟨without, _, _, _, dropped, rfl, rfl, rfl, ?_, ?_⟩
  · rw [List.eq_nil_iff_forall_not_mem]
    rintro ⟨name, node⟩ entry
    rcases (entries name node).mp entry with old | ⟨-, h, member, keeps, -⟩
    · exact List.not_mem_nil (show (name, node) ∈ [] from old)
    · rcases List.mem_pair.mp member with rfl | rfl <;> simp [Holding.keeps] at keeps
  · obtain ⟨h, there, again⟩ := again {} 0 (by simp)
    cases there
    exact again

end Overseer.Script
