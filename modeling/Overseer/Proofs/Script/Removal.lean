import Overseer.Proofs.Script.Ownership

/-!
# Attempts to remove a script directory

A script can be cleaned up any number of times before it is dropped, and the system may refuse to remove its
directory at any of these times.  Only the first of the calls attempts it at all: it uses the handle up,
whether the directory is gone behind it or not.  From there on every clean-up answers that all is well, and
the drop does nothing, so the last state of the files is the one that the first attempt leaves
(`dropped_of_live`).

What one would want is that an answer of success means that the directory is gone, and that a removal that
failed is made up for later (`Dependable`).  `dependable_iff` says when a script lives up to that: when its
first removal succeeds, and else only if it is cleaned up at most once and the drop could not remove the
directory either.

## Main definitions

* `cleanedUp` — a script and the files behind a number of clean-ups
* `answer` — what a clean-up behind others answers
* `dropped` — the files at the end of a script
* `Dependable` — success means that the directory is gone, and failures are made up for
-/

namespace Overseer.Script

open Overseer.Host Overseer.Host.FileTree Overseer.Os

namespace EphemeralScript

variable {faults first last : Faults} {all later : List Faults} {dir : Path} {files before : FileTree}
variable {script : EphemeralScript} {made : FileTree} {root extension source : String}

/-- A script and the files, once the script has been cleaned up with each of some failures in turn. -/
def cleanedUp (script : EphemeralScript) (files : FileTree) (all : List Faults) :
    EphemeralScript × FileTree :=
  all.foldl (fun now faults =>
    let behind := (now.1.cleanup faults).run now.2
    (behind.1.2, behind.2)) (script, files)

/-- What the next clean-up answers behind earlier ones. -/
def answer (script : EphemeralScript) (files : FileTree) (earlier : List Faults) (faults : Faults) :
    Except OsError Unit :=
  let now := cleanedUp script files earlier
  ((now.1.cleanup faults).run now.2).1.1

/-- The files, once the script has been cleaned up with each of some failures and then dropped. -/
def dropped (script : EphemeralScript) (files : FileTree) (all : List Faults) (last : Faults) :
    FileTree :=
  let now := cleanedUp script files all
  ((now.1.drop last).run now.2).2

/-- **What one would want of a script** that is cleaned up with each of some failures and then dropped with
a last one. -/
structure Dependable (script : EphemeralScript) (files : FileTree) (all : List Faults) (last : Faults) :
    Prop where
  /-- success means that the directory is gone -/
  gone : ∀ earlier faults later, all = earlier ++ faults :: later →
    answer script files earlier faults = .ok () →
    (cleanedUp script files (earlier ++ [faults])).2.node? script.dir = none
  /-- a removal that failed is made up for, once the system lets a later one succeed -/
  again : ∀ earlier faults later cause, all = earlier ++ faults :: later →
    answer script files earlier faults = .error cause →
    (cleanedUp script files (earlier ++ [faults])).2.node? script.dir = some .directory →
    (∃ next ∈ later ++ [last], next.removal = none) →
    (dropped script files all last).node? script.dir = none

/-! ## One attempt -/

/-- An attempt to remove a directory leaves it standing exactly when the system refuses. -/
theorem node?_discard_of_directory (below : dir ≠ []) (stands : files.node? dir = some .directory) :
    (discard faults dir files).node? dir =
      if faults.removal = none then none else some .directory := by
  cases removal : faults.removal with
  | none =>
    rw [if_pos rfl, Option.eq_none_iff_forall_ne_some]
    intro node there
    obtain ⟨-, away⟩ := (mem_nodes_discard removal).mp (mem_nodes_of_node? there below)
    exact away stands List.prefix_rfl
  | some cause =>
    rw [if_neg (Option.some_ne_none cause), discard, remove, removal]
    exact stands

/-- The first clean-up answers what comes of its attempt. -/
theorem answer_nil_eq_ok_iff (live : script.live = true) (stands : files.node? script.dir = some .directory) :
    answer script files [] faults = .ok () ↔ faults.removal = none := by
  change ((script.cleanup faults).run files).1.1 = .ok () ↔ faults.removal = none
  rw [run_cleanup live, remove, removeTree, stands]
  cases faults.removal with
  | none => exact iff_of_true rfl rfl
  | some cause =>
    constructor
    · intro done
      cases done
    · intro removes
      cases removes

/-! ## A handle that is used up -/

theorem cleanedUp_of_used (used : script.live = false) : cleanedUp script files all = (script, files) := by
  induction all with
  | nil => rfl
  | cons faults later ih => rwa [cleanedUp, List.foldl_cons, run_cleanup_of_not_live used]

/-- **Only the first clean-up does anything.** -/
theorem cleanedUp_cons (live : script.live = true) :
    cleanedUp script files (first :: later) =
      ({ script with live := false }, discard first script.dir files) := by
  rw [cleanedUp, List.foldl_cons, run_cleanup live]
  exact cleanedUp_of_used rfl

/-- Behind every clean-up, the files are those that the first attempt leaves. -/
theorem files_cleanedUp (live : script.live = true) {earlier : List Faults} :
    (cleanedUp script files (earlier ++ [faults])).2 =
      discard ((earlier ++ faults :: later).headD last) script.dir files := by
  cases earlier with
  | nil => rw [List.nil_append, cleanedUp_cons live, List.nil_append, List.headD_cons]
  | cons first earlier => rw [List.cons_append, cleanedUp_cons live, List.cons_append, List.headD_cons]

/-- Behind the first clean-up, every other one answers that all is well. -/
theorem answer_cons (live : script.live = true) :
    answer script files (first :: later) faults = .ok () := by
  rw [answer, cleanedUp_cons live]
  dsimp only
  rw [run_cleanup_of_not_live rfl]

/-- **The first attempt is the only one**, be it that of a clean-up or that of the drop. -/
theorem dropped_of_live (live : script.live = true) :
    dropped script files all last = discard (all.headD last) script.dir files := by
  cases all with
  | nil =>
    change ((script.drop last).run files).2 = discard last script.dir files
    simp only [drop, StateT.run, live, if_true]
  | cons first later =>
    rw [dropped, cleanedUp_cons live]
    dsimp only
    rw [run_drop_of_not_live rfl]
    rfl

/-! ## What can be depended on -/

section Live

variable (live : script.live = true) (stands : files.node? script.dir = some .directory)

include live stands

/-- When nothing follows but a drop to which the system refuses the removal as well, there is nothing to be
made up for. -/
theorem dependable_of_refused (once : all.length ≤ 1) (fails : (all.headD last).removal ≠ none)
    (refused : last.removal ≠ none) : Dependable script files all last where
  gone earlier faults later split answers := by
    obtain ⟨rfl, rfl⟩ : earlier = [] ∧ later = [] := by
      rw [split, List.length_append, List.length_cons] at once
      exact ⟨List.eq_nil_of_length_eq_zero (by omega), List.eq_nil_of_length_eq_zero (by omega)⟩
    subst split
    exact absurd ((answer_nil_eq_ok_iff live stands).mp answers) fails
  again earlier faults later _ split _ _ succeeds := by
    obtain ⟨next, member, removes⟩ := succeeds
    obtain rfl : later = [] := by
      rw [split, List.length_append, List.length_cons] at once
      exact List.eq_nil_of_length_eq_zero (by omega)
    obtain rfl := List.mem_singleton.mp member
    exact absurd removes refused

variable (below : script.dir ≠ [])

include below

/-- When the first attempt succeeds, all is well. -/
theorem dependable_of_removal (removes : (all.headD last).removal = none) :
    Dependable script files all last where
  gone earlier faults later split _ := by
    subst split
    rw [files_cleanedUp live, node?_discard_of_directory below stands, if_pos removes]
  again _ _ _ _ _ _ _ _ := by
    rw [dropped_of_live live, node?_discard_of_directory below stands, if_pos removes]

/-- Once the first attempt has failed, a second clean-up answers that all is well although the directory
still stands. -/
theorem not_dependable_of_second {first second : Faults} (fails : first.removal ≠ none) :
    ¬Dependable script files (first :: second :: later) last := by
  intro dependable
  have gone := dependable.gone [first] second later rfl (answer_cons live)
  rw [List.singleton_append, cleanedUp_cons live, node?_discard_of_directory below stands,
    if_neg fails] at gone
  cases gone

/-- Once the first attempt has failed, the drop leaves the directory, also when it could be removed. -/
theorem not_dependable_of_drop (fails : first.removal ≠ none) (removes : last.removal = none) :
    ¬Dependable script files [first] last := by
  intro dependable
  have left : (discard first script.dir files).node? script.dir = some .directory := by
    rw [node?_discard_of_directory below stands, if_neg fails]
  obtain ⟨cause, failed⟩ : ∃ cause, answer script files [] first = .error cause := by
    cases told : answer script files [] first with
    | error cause => exact ⟨cause, rfl⟩
    | ok done => exact absurd ((answer_nil_eq_ok_iff live stands).mp told) fails
  have still : (cleanedUp script files [first]).2.node? script.dir = some .directory := by
    rw [cleanedUp_cons live, left]
  have gone := dependable.again [] first [] cause rfl failed still
    ⟨last, List.mem_singleton_self last, removes⟩
  rw [dropped_of_live live, List.headD_cons, left] at gone
  cases gone

end Live

/-! ## Scripts that were made -/

/-- A script that was made holds the handle on a directory below the root. -/
theorem ne_nil_of_create (created : (create faults root extension source).run before = (.ok script, made)) :
    script.dir ≠ [] := by
  cases creates_of_run created with
  | whole directory =>
    obtain ⟨-, adds⟩ := makeDirectory_ok directory
    exact ne_nil_of_free adds.free

/-- On a system that has a place for scripts and nothing else, a script can be made. -/
theorem exists_create_bare : ∃ script made,
    (create {} "/tmp" ".sh" "true").run bare = (.ok script, made) ∧
      made.node? script.dir = some .directory := by
  have standing : bare.Standing ["tmp"] := by decide
  obtain ⟨script, made, created, -⟩ := exists_create_ok ".sh" "true" sound_bare.connected standing
    (by decide) (by decide) rfl (by decide) (by decide) (by decide) (by decide) rfl (by decide) (by decide)
  have written := written_of_create sound_bare (fun _ => eq_of_find_bare) (by decide) created
  exact ⟨script, made, created, written.node?_dir⟩

/-- A system that refuses to remove a directory. -/
def refusing : Faults := { removal := some (.ofErrno .denied) }

/-- **When a script can be depended on.**  A script that was made, and whose directory stands, is cleaned up
any number of times and then dropped.  The directory is gone at the end exactly if the first of these calls
could remove it.  If it could not, success of a later clean-up does not mean that the directory is gone, and
no later call makes up for the failure, even when it could: the script is only beyond reproach if no clean-up
follows and the drop could not remove the directory either. -/
theorem dependable_iff (created : (create faults root extension source).run before = (.ok script, made))
    (stands : files.node? script.dir = some .directory) (all : List Faults) (last : Faults) :
    ((dropped script files all last).node? script.dir = none ↔ (all.headD last).removal = none) ∧
      (Dependable script files all last ↔
        (all.headD last).removal = none ∨ all.length ≤ 1 ∧ last.removal ≠ none) := by
  have live := live_of_create created
  have below := ne_nil_of_create created
  constructor
  · rw [dropped_of_live live, node?_discard_of_directory below stands]
    simp
  constructor
  · intro dependable
    by_contra neither
    obtain ⟨fails, more⟩ := not_or.mp neither
    -- The drop is the first attempt, or the second, or another clean-up comes before it.
    match all with
    | [] => exact more ⟨Nat.zero_le 1, fails⟩
    | [first] =>
      refine not_dependable_of_drop live stands below fails ?_ dependable
      by_contra refused
      exact more ⟨Nat.le_refl 1, refused⟩
    | first :: second :: later => exact not_dependable_of_second live stands below fails dependable
  · rintro (removes | ⟨once, refused⟩)
    · exact dependable_of_removal live stands below removes
    · by_cases removes : (all.headD last).removal = none
      · exact dependable_of_removal live stands below removes
      · exact dependable_of_refused live stands once removes refused

/-- A script whose directory can be removed at once is dependable, however often it is cleaned up. -/
theorem dependable_on_bare : ∃ script made,
    (create {} "/tmp" ".sh" "true").run bare = (.ok script, made) ∧
      (dropped script made [{}, refusing] {}).node? script.dir = none ∧
      Dependable script made [{}, refusing] {} := by
  obtain ⟨script, made, created, stands⟩ := exists_create_bare
  obtain ⟨gone, dependable⟩ := dependable_iff created stands [{}, refusing] {}
  exact ⟨script, made, created, gone.mpr rfl, dependable.mpr (Or.inl rfl)⟩

/-- A directory that could not be removed at first is there for ever: the second clean-up, which could remove
it, answers that all is well and leaves it, and so does the drop. -/
theorem directory_left_behind_success : ∃ script made,
    (create {} "/tmp" ".sh" "true").run bare = (.ok script, made) ∧
      answer script made [] refusing = .error (.ofErrno .denied) ∧
      answer script made [refusing] {} = .ok () ∧
      (cleanedUp script made [refusing, {}]).2.node? script.dir = some .directory ∧
      (dropped script made [refusing, {}] {}).node? script.dir = some .directory ∧
      ¬Dependable script made [refusing, {}] {} := by
  obtain ⟨script, made, created, stands⟩ := exists_create_bare
  have live := live_of_create created
  have below := ne_nil_of_create created
  have refuses : refusing.removal ≠ none := Option.some_ne_none _
  have left : (discard refusing script.dir made).node? script.dir = some .directory := by
    rw [node?_discard_of_directory below stands, if_neg refuses]
  refine ⟨script, made, created, ?_, answer_cons live, ?_, ?_, ?_⟩
  · change ((script.cleanup refusing).run made).1.1 = .error (.ofErrno .denied)
    rw [run_cleanup live]
    rfl
  · rw [cleanedUp_cons live, left]
  · rw [dropped_of_live live, List.headD_cons, left]
  · exact not_dependable_of_second live stands below refuses

end EphemeralScript

end Overseer.Script
