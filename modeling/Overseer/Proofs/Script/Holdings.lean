import Overseer.Proofs.Script.WrittenFiles

/-!
# The directories that scripts hold

Any number of scripts are made in one place, cleaned up and dropped, in any order, and in between others
meddle with their directories: they change what is in one, or take it away.

What is owned is kept in three places that know nothing of each other: the handle of a script, which a
clean-up uses up; the paths that the script remembers; and the tree, which others change.  `Orderly` says
how the three go together.

Whatever is done next has one of three outcomes (`Orderly.outcome`): a script is new, no script is new, or
one script has changed.  Each of them concerns one directory and leaves the others alone, so it keeps
everything in order (`Orderly.of_outcome`).

## Main definitions

* `Holding`, `Workshop` — the scripts that were made, and the files
* `Deed`, `Workshop.perform`, `Allows`, `Runs` — what may be done, one thing after another
* `Meddles` — what others do to a script directory
* `Orderly` — the invariant
* `Outcome` — what becomes of the files and the scripts
-/

namespace Overseer.Script

open Overseer.Host Overseer.Host.FileTree Overseer.Os

/-- A script that was made, and what has become of it. -/
structure Holding where
  /-- the script -/
  script : EphemeralScript
  /-- somebody else has taken the directory away -/
  robbed : Bool := false
  /-- the script has been dropped -/
  dropped : Bool := false

/-- The script has been neither cleaned up nor dropped, and nobody else has taken its directory away. -/
def Holding.keeps (h : Holding) : Bool := h.script.live && !h.robbed && !h.dropped

/-- What stands where the script has its directory, or had it. -/
def Holding.held (h : Holding) : Option Node := if h.keeps then some .directory else none

theorem Holding.held_of_keeps {h : Holding} (keeps : h.keeps = true) : h.held = some .directory :=
  if_pos keeps

theorem Holding.held_of_not_keeps {h : Holding} (lost : h.keeps = false) : h.held = none := by
  rw [held, lost, if_neg Bool.false_ne_true]

/-- The scripts that were made, in the order in which they were, and the files. -/
structure Workshop where
  /-- the files -/
  files : FileTree
  /-- the scripts -/
  holdings : List Holding := []

/-- What is done to the scripts. -/
inductive Deed where
  /-- a script is made -/
  | create (faults : Faults) (root extension source : String)
  /-- a script is cleaned up -/
  | cleanup (faults : Faults) (i : Nat)
  /-- a script is dropped -/
  | drop (faults : Faults) (i : Nat)
  /-- somebody else changes the files -/
  | meddle (i : Nat) (after : FileTree)

/-- The script to which something is done. -/
def Deed.concerns : Deed → Option Nat
  | create .. => none
  | cleanup _ i => some i
  | drop _ i => some i
  | meddle i _ => some i

namespace Workshop

/-- The directories of the scripts, whether they are still there or not. -/
def dirs (w : Workshop) : List Path := w.holdings.map (·.script.dir)

/-- Does something. -/
def perform (w : Workshop) : Deed → Workshop
  | .create faults root extension source =>
    match (EphemeralScript.create faults root extension source).run w.files with
    | (.ok script, files) => ⟨files, w.holdings ++ [{ script := script }]⟩
    | (.error _, files) => ⟨files, w.holdings⟩
  | .cleanup faults i =>
    match w.holdings[i]? with
    | none => w
    | some h =>
      let ((_, script), files) := (h.script.cleanup faults).run w.files
      ⟨files, w.holdings.set i { h with script }⟩
  | .drop faults i =>
    match w.holdings[i]? with
    | none => w
    | some h =>
      ⟨((h.script.drop faults).run w.files).2, w.holdings.set i { h with dropped := true }⟩
  | .meddle i after =>
    match w.holdings[i]? with
    | none => w
    | some h =>
      ⟨after, w.holdings.set i { h with robbed := (after.node? h.script.dir).isNone }⟩

end Workshop

/-- **Meddling with a directory**: outside of it everything stays as it was, and it either remains a
directory, with anything in it, or is gone. -/
structure Meddles (dir : Path) (before after : FileTree) : Prop where
  stood : before.node? dir = some .directory
  sound : after.Sound
  outside : Agree (¬dir <+: ·) before after
  left : after.node? dir = some .directory ∨ after.node? dir = none

/-- What may be done.  Removing a tree does not fail.  Scripts are made in one place: if the root leads to
a directory, it is that place, and the fresh name there is neither taken nor that of an earlier script.  A
script that has been dropped is not used any more. -/
def Allows (place : Path) (w : Workshop) : Deed → Prop
  | .create faults root _ _ =>
    faults.removal = none ∧
      (∀ there, w.files.find [] root true = .ok (there, .directory) → there = place) ∧
      w.files.node? (EphemeralScript.freshDirectory w.files place) = none ∧
      EphemeralScript.freshDirectory w.files place ∉ w.dirs
  | .cleanup faults i | .drop faults i =>
    faults.removal = none ∧ ∃ h, w.holdings[i]? = some h ∧ h.dropped = false
  | .meddle i after => ∃ h, w.holdings[i]? = some h ∧ Meddles h.script.dir w.files after

/-- From some files on and without any scripts, one thing was done after another. -/
inductive Runs (place : Path) (start : FileTree) : List Deed → Workshop → Prop
  | nil : Runs place start [] ⟨start, []⟩
  | snoc {deeds : List Deed} {w : Workshop} {deed : Deed} (earlier : Runs place start deeds w)
      (allowed : Allows place w deed) : Runs place start (deeds ++ [deed]) (w.perform deed)

variable {place : Path} {start files : FileTree} {w next : Workshop} {deed : Deed} {deeds : List Deed}
variable {h x changed : Holding} {i j : Nat} {faults : Faults} {root extension source : String}
variable {script : EphemeralScript} {cause : OsError}

/-! ## The invariant -/

/-- **Everything is in order**: the scripts have different directories in the place, which are new, which
stand as long as the scripts keep them and are gone otherwise, and outside of which nothing has
changed. -/
structure Orderly (place : Path) (start : FileTree) (w : Workshop) : Prop where
  sound : w.files.Sound
  standing : w.files.Standing place
  inPlace : ∀ dir ∈ w.dirs, ∃ name, dir = place ++ [name]
  distinct : w.dirs.Nodup
  new : ∀ dir ∈ w.dirs, start.node? dir = none
  held : ∀ h ∈ w.holdings, w.files.node? h.script.dir = h.held
  outside : Agree (fun p => ∀ dir ∈ w.dirs, ¬dir <+: p) start w.files

/-- **One script has changed**, with what is in its directory or with the directory as a whole. -/
structure Changed (w : Workshop) (h changed : Holding) (files : FileTree) : Prop where
  dir : changed.script.dir = h.script.dir
  used : h.script.live = false → changed.script.live = false
  sound : files.Sound
  agree : Agree (¬h.script.dir <+: ·) w.files files
  held : files.node? h.script.dir = changed.held

/-- What becomes of the files and the scripts when something is done: a script is new, or nothing is, or
one script has changed. -/
inductive Outcome (place : Path) (w : Workshop) : Deed → Workshop → Prop
  | made {faults : Faults} {root extension source : String} {script : EphemeralScript} {files : FileTree}
      (written : EphemeralScript.Written place extension source script w.files files)
      (fresh : script.dir ∉ w.dirs) :
      Outcome place w (.create faults root extension source)
        ⟨files, w.holdings ++ [{ script := script }]⟩
  | failed {faults : Faults} {root extension source : String} {files : FileTree}
      (undone : EphemeralScript.Undone w.files files) :
      Outcome place w (.create faults root extension source) ⟨files, w.holdings⟩
  | changed {deed : Deed} {i : Nat} {h changed : Holding} {files : FileTree}
      (concerns : deed.concerns = some i) (member : w.holdings[i]? = some h)
      (change : Changed w h changed files) : Outcome place w deed ⟨files, w.holdings.set i changed⟩

namespace Workshop

theorem mem_dirs (member : h ∈ w.holdings) : h.script.dir ∈ w.dirs :=
  List.mem_map_of_mem member

theorem dirs_append : (⟨files, w.holdings ++ [h]⟩ : Workshop).dirs = w.dirs ++ [h.script.dir] := by
  rw [dirs, List.map_append, List.map_singleton, dirs]

/-- No directory is another one when a script changes. -/
theorem dirs_set (member : w.holdings[i]? = some h) (same : changed.script.dir = h.script.dir) :
    (⟨files, w.holdings.set i changed⟩ : Workshop).dirs = w.dirs := by
  obtain ⟨within, rfl⟩ := List.getElem?_eq_some_iff.mp member
  have unchanged := congrArg (List.map fun h => h.script.dir) (List.set_getElem_self within)
  rw [List.map_set] at unchanged
  rw [dirs, List.map_set, same]
  exact unchanged

end Workshop

namespace Orderly

theorem begin (sound : start.Sound) (standing : start.Standing place) :
    Orderly place start ⟨start, []⟩ where
  sound := sound
  standing := standing
  inPlace := List.forall_mem_nil _
  distinct := List.nodup_nil
  new := List.forall_mem_nil _
  held := List.forall_mem_nil _
  outside := Agree.refl _ _

theorem dir_ne_nil (orderly : Orderly place start w) (member : h ∈ w.holdings) : h.script.dir ≠ [] := by
  obtain ⟨name, dir⟩ := orderly.inPlace _ (Workshop.mem_dirs member)
  simp [dir]

/-- The directory of a script is there, or nothing is. -/
theorem directory_or_gone (orderly : Orderly place start w) (member : h ∈ w.holdings) :
    w.files.node? h.script.dir = some .directory ∨ w.files.node? h.script.dir = none := by
  rw [orderly.held h member, Holding.held]
  split
  · exact Or.inl rfl
  · exact Or.inr rfl

/-- Two scripts have different directories. -/
theorem dir_ne (orderly : Orderly place start w) (first : w.holdings[i]? = some h)
    (second : w.holdings[j]? = some x) (different : j ≠ i) : x.script.dir ≠ h.script.dir := by
  intro same
  refine different ?_
  refine (List.getElem?_inj ?_ orderly.distinct).mp ?_
  · rw [Workshop.dirs, List.length_map]
    exact (List.getElem?_eq_some_iff.mp second).1
  · rw [Workshop.dirs, List.getElem?_map, List.getElem?_map, first, second, Option.map_some,
      Option.map_some, same]

/-- What is done to one script leaves the directories of the others alone. -/
theorem untouched (orderly : Orderly place start w) (first : w.holdings[i]? = some h)
    (agree : Agree (¬h.script.dir <+: ·) w.files files) (second : w.holdings[j]? = some x)
    (different : j ≠ i) : Agree (x.script.dir <+: ·) w.files files := by
  obtain ⟨name, dir⟩ := orderly.inPlace _ (Workshop.mem_dirs (List.mem_of_getElem? first))
  obtain ⟨other, dir'⟩ := orderly.inPlace _ (Workshop.mem_dirs (List.mem_of_getElem? second))
  have names : other ≠ name := by
    rintro rfl
    exact orderly.dir_ne first second different (dir'.trans dir.symm)
  rw [dir] at agree
  rw [dir']
  exact agree.sibling names

/-- A script after one of them has changed is that one, or another one. -/
theorem eq_or_exists_of_mem_set (member : x ∈ w.holdings.set i changed) :
    x = changed ∨ ∃ j, j ≠ i ∧ w.holdings[j]? = some x := by
  obtain ⟨j, there⟩ := List.getElem?_of_mem member
  rw [List.getElem?_set] at there
  split at there
  · split at there
    · exact Or.inl (Option.some.inj there).symm
    · cases there
  · next other => exact Or.inr ⟨j, Ne.symm other, there⟩

/-- Everything stays in order when one script changes. -/
theorem set (orderly : Orderly place start w) (member : w.holdings[i]? = some h)
    (change : Changed w h changed files) : Orderly place start ⟨files, w.holdings.set i changed⟩ := by
  obtain ⟨same, -, sound, agree, held⟩ := change
  have own := List.mem_of_getElem? member
  have dirs : (⟨files, w.holdings.set i changed⟩ : Workshop).dirs = w.dirs :=
    Workshop.dirs_set member same
  constructor
  case sound => exact sound
  case standing =>
    obtain ⟨name, dir⟩ := orderly.inPlace _ (Workshop.mem_dirs own)
    rw [dir] at agree
    exact agree.standing orderly.sound sound orderly.standing
  -- What is known of the directories alone is known as before.
  case inPlace =>
    rw [dirs]
    exact orderly.inPlace
  case distinct =>
    rw [dirs]
    exact orderly.distinct
  case new =>
    rw [dirs]
    exact orderly.new
  case held =>
    intro x found
    rcases eq_or_exists_of_mem_set found with rfl | ⟨j, different, there⟩
    · rw [same, held]
    · have alone := orderly.untouched member agree there different
      rw [alone.node?_eq orderly.sound sound List.prefix_rfl]
      exact orderly.held x (List.mem_of_getElem? there)
  case outside =>
    rw [dirs]
    exact orderly.outside.trans (agree.mono fun p away => away _ (Workshop.mem_dirs own))

/-- The directory of a script that has just been written has nothing in common with those of the others. -/
theorem apart (orderly : Orderly place start w)
    (written : EphemeralScript.Written place extension source script w.files files)
    (fresh : script.dir ∉ w.dirs) {dir p : Path} (member : dir ∈ w.dirs) (below : dir <+: p) :
    ¬script.dir <+: p := by
  intro inside
  have new : script.dir = place ++ [_] := written.dir
  obtain ⟨name, rfl⟩ := orderly.inPlace dir member
  rw [new] at inside
  refine fresh ?_
  rwa [new, eq_of_within_both inside below]

/-- Everything stays in order when a script is new. -/
theorem append (orderly : Orderly place start w) (soundStart : start.Sound)
    (written : EphemeralScript.Written place extension source script w.files files)
    (fresh : script.dir ∉ w.dirs) :
    Orderly place start ⟨files, w.holdings ++ [{ script := script }]⟩ := by
  have agree := written.agree orderly.sound
  have dir : script.dir = place ++ [_] := written.dir
  have dirs : (⟨files, w.holdings ++ [{ script := script }]⟩ : Workshop).dirs = w.dirs ++ [script.dir] :=
    Workshop.dirs_append
  constructor
  case sound => exact written.sound
  case standing =>
    rw [dir] at agree
    exact agree.standing orderly.sound written.sound orderly.standing
  case inPlace =>
    rw [dirs, List.forall_mem_append, List.forall_mem_singleton]
    exact ⟨orderly.inPlace, _, dir⟩
  case distinct =>
    rw [dirs, List.nodup_append]
    refine ⟨orderly.distinct, List.nodup_singleton _, ?_⟩
    rintro d earlier d' new rfl
    exact fresh (List.mem_singleton.mp new ▸ earlier)
  case new =>
    rw [dirs, List.forall_mem_append, List.forall_mem_singleton]
    refine ⟨orderly.new, ?_⟩
    have outside : ∀ dir ∈ w.dirs, ¬dir <+: script.dir :=
      fun dir member below => orderly.apart written fresh member below List.prefix_rfl
    rw [← orderly.outside.node?_eq soundStart orderly.sound outside, written.free]
  case held =>
    rw [List.forall_mem_append, List.forall_mem_singleton]
    constructor
    · intro x member
      have away := orderly.apart written fresh (Workshop.mem_dirs member) List.prefix_rfl
      rw [agree.node?_eq orderly.sound written.sound away]
      exact orderly.held x member
    · rw [written.node?_dir, Holding.held, Holding.keeps, written.live]
      rfl
  case outside =>
    simp only [dirs, List.forall_mem_append, List.forall_mem_singleton]
    exact (orderly.outside.mono fun p away => away.1).trans (agree.mono fun p away => away.2)

/-- Everything stays in order when a script could not be made. -/
theorem undone (orderly : Orderly place start w) (undone : EphemeralScript.Undone w.files files) :
    Orderly place start ⟨files, w.holdings⟩ := by
  have agree := undone.agree orderly.sound
  have sound := undone.sound orderly.sound
  have same : ∀ p, files.node? p = w.files.node? p := fun p =>
    agree.node?_eq orderly.sound sound trivial
  constructor
  case sound => exact sound
  case standing =>
    intro p above
    rw [same, orderly.standing p above]
  case inPlace => exact orderly.inPlace
  case distinct => exact orderly.distinct
  case new => exact orderly.new
  case held =>
    intro x member
    rw [same, orderly.held x member]
  case outside => exact orderly.outside.trans (agree.mono fun _ _ => trivial)

end Orderly

/-! ## What is done -/

namespace Workshop

theorem perform_cleanup (there : w.holdings[i]? = some h) (live : h.script.live = true) :
    w.perform (.cleanup faults i) =
      ⟨EphemeralScript.discard faults h.script.dir w.files,
        w.holdings.set i { h with script := { h.script with live := false } }⟩ := by
  simp only [perform, there, EphemeralScript.run_cleanup live]

theorem perform_cleanup_of_used (there : w.holdings[i]? = some h) (used : h.script.live = false) :
    w.perform (.cleanup faults i) = ⟨w.files, w.holdings.set i h⟩ := by
  simp [perform, there, EphemeralScript.cleanup, StateT.run, used]

theorem perform_drop (there : w.holdings[i]? = some h) (live : h.script.live = true) :
    w.perform (.drop faults i) =
      ⟨EphemeralScript.discard faults h.script.dir w.files,
        w.holdings.set i { h with dropped := true }⟩ := by
  simp [perform, there, EphemeralScript.drop, StateT.run, live]

theorem perform_drop_of_used (there : w.holdings[i]? = some h) (used : h.script.live = false) :
    w.perform (.drop faults i) = ⟨w.files, w.holdings.set i { h with dropped := true }⟩ := by
  simp [perform, there, EphemeralScript.run_drop_of_not_live used]

theorem perform_meddle {after : FileTree} (there : w.holdings[i]? = some h) :
    w.perform (.meddle i after) =
      ⟨after, w.holdings.set i { h with robbed := (after.node? h.script.dir).isNone }⟩ := by
  simp only [perform, there]

theorem perform_create
    (created : (EphemeralScript.create faults root extension source).run w.files = (.ok script, files)) :
    w.perform (.create faults root extension source) = ⟨files, w.holdings ++ [{ script := script }]⟩ := by
  simp only [perform, created]

theorem perform_create_of_error
    (created : (EphemeralScript.create faults root extension source).run w.files =
      (.error cause, files)) :
    w.perform (.create faults root extension source) = ⟨files, w.holdings⟩ := by
  simp only [perform, created]

end Workshop

namespace Orderly

/-- A script is left as it is, except that it may be dropped when it holds nothing any more. -/
theorem changed_of_files (orderly : Orderly place start w) (member : w.holdings[i]? = some h)
    (same : changed.script = h.script) (keeps : changed.keeps = h.keeps) :
    Changed w h changed w.files := by
  have own := List.mem_of_getElem? member
  constructor
  case dir => rw [same]
  case used => exact fun used => same ▸ used
  case sound => exact orderly.sound
  case agree => exact Agree.refl _ _
  case held => rw [orderly.held h own, Holding.held, Holding.held, keeps]

/-- A script that gives its directory away takes it along, if it is still there. -/
theorem changed_of_discard (orderly : Orderly place start w) (member : w.holdings[i]? = some h)
    (removes : faults.removal = none) (dir : changed.script.dir = h.script.dir)
    (used : h.script.live = false → changed.script.live = false) (lost : changed.keeps = false) :
    Changed w h changed (EphemeralScript.discard faults h.script.dir w.files) := by
  have own := List.mem_of_getElem? member
  constructor
  case dir => exact dir
  case used => exact used
  case sound => exact EphemeralScript.sound_discard orderly.sound
  case agree => exact EphemeralScript.agree_discard
  case held =>
    rw [Holding.held_of_not_keeps lost]
    exact EphemeralScript.node?_discard orderly.sound removes (orderly.dir_ne_nil own)
      (orderly.directory_or_gone own)

/-- Others may take away the directory of a script, or change what is in it. -/
theorem changed_of_meddles {after : FileTree} (orderly : Orderly place start w)
    (member : w.holdings[i]? = some h) (meddles : Meddles h.script.dir w.files after) :
    Changed w h { h with robbed := (after.node? h.script.dir).isNone } after := by
  have own := List.mem_of_getElem? member
  -- The directory stood, so the script has neither been cleaned up nor dropped.
  have kept : h.keeps = true := by
    have stood := meddles.stood
    rw [orderly.held h own, Holding.held] at stood
    by_contra lost
    rw [if_neg lost] at stood
    cases stood
  simp only [Holding.keeps, Bool.and_eq_true, Bool.not_eq_true'] at kept
  obtain ⟨⟨live, -⟩, held⟩ := kept
  constructor
  case dir => rfl
  case used => exact id
  case sound => exact meddles.sound
  case agree => exact meddles.outside
  case held =>
    rcases meddles.left with stays | gone
    · rw [Holding.held_of_keeps (by simp [Holding.keeps, live, held, stays]), stays]
    · rw [Holding.held_of_not_keeps (by simp [Holding.keeps, gone]), gone]

/-- **What may be done has one of the three outcomes.** -/
theorem outcome (orderly : Orderly place start w) (allowed : Allows place w deed) :
    Outcome place w deed (w.perform deed) := by
  cases deed with
  | create faults root extension source =>
    obtain ⟨removes, leads, free, fresh⟩ := allowed
    rcases created : (EphemeralScript.create faults root extension source).run w.files with
      ⟨cause | script, files⟩
    · rw [Workshop.perform_create_of_error created]
      exact .failed (EphemeralScript.undone_of_create orderly.sound removes created)
    · have written := EphemeralScript.written_of_create orderly.sound leads free created
      rw [Workshop.perform_create created]
      exact .made written (written.dir ▸ fresh)
  | cleanup faults i =>
    obtain ⟨removes, h, member, -⟩ := allowed
    cases live : h.script.live with
    | true =>
      rw [Workshop.perform_cleanup member live]
      exact .changed rfl member
        (orderly.changed_of_discard member removes rfl (fun _ => rfl) (by simp [Holding.keeps]))
    | false =>
      rw [Workshop.perform_cleanup_of_used member live]
      exact .changed rfl member (orderly.changed_of_files member rfl rfl)
  | drop faults i =>
    obtain ⟨removes, h, member, -⟩ := allowed
    cases live : h.script.live with
    | true =>
      rw [Workshop.perform_drop member live]
      exact .changed rfl member
        (orderly.changed_of_discard member removes rfl id (by simp [Holding.keeps]))
    | false =>
      rw [Workshop.perform_drop_of_used member live]
      exact .changed rfl member (orderly.changed_of_files member rfl (by simp [Holding.keeps, live]))
  | meddle i after =>
    obtain ⟨h, member, meddles⟩ := allowed
    rw [Workshop.perform_meddle member]
    exact .changed rfl member (orderly.changed_of_meddles member meddles)

/-- **Whatever is done, everything stays in order.** -/
theorem of_outcome (orderly : Orderly place start w) (sound : start.Sound)
    (outcome : Outcome place w deed next) : Orderly place start next := by
  cases outcome with
  | made written fresh => exact orderly.append sound written fresh
  | failed undone => exact orderly.undone undone
  | changed _ member change => exact orderly.set member change

/-- **What is done concerns one script**: the directories of all others stay as they are. -/
theorem agree_of_outcome (orderly : Orderly place start w) (outcome : Outcome place w deed next)
    (there : w.holdings[j]? = some x) (different : deed.concerns ≠ some j) :
    Agree (x.script.dir <+: ·) w.files next.files := by
  cases outcome with
  | made written fresh =>
    have member := Workshop.mem_dirs (List.mem_of_getElem? there)
    exact (written.agree orderly.sound).mono fun p inside => orderly.apart written fresh member inside
  | failed undone => exact (undone.agree orderly.sound).mono fun _ _ => trivial
  | changed concerns member change =>
    refine orderly.untouched member change.agree there ?_
    rintro rfl
    exact different concerns

/-- A script that has been cleaned up remains so. -/
theorem used_of_outcome (outcome : Outcome place w deed next) (there : w.holdings[j]? = some x)
    (used : x.script.live = false) : ∃ y, next.holdings[j]? = some y ∧ y.script.live = false := by
  cases outcome with
  | made written fresh =>
    refine ⟨x, ?_, used⟩
    rw [List.getElem?_append_left (List.getElem?_eq_some_iff.mp there).1, there]
  | failed undone => exact ⟨x, there, used⟩
  | @changed _ i h changed _ concerns member change =>
    rw [List.getElem?_set]
    by_cases here : i = j
    · subst here
      obtain rfl : h = x := Option.some.inj (member.symm.trans there)
      rw [if_pos rfl, if_pos (List.getElem?_eq_some_iff.mp member).1]
      exact ⟨changed, rfl, change.used used⟩
    · rw [if_neg here]
      exact ⟨x, there, used⟩

/-- The place has the entries that it had, and a directory for every script that keeps its own. -/
theorem mem_children (orderly : Orderly place start w) {name : String} {node : Node} :
    (name, node) ∈ w.files.children place ↔
      (name, node) ∈ start.children place ∨
        node = .directory ∧ ∃ h ∈ w.holdings, h.keeps = true ∧ h.script.dir = place ++ [name] := by
  rw [FileTree.mem_children, FileTree.mem_children]
  by_cases own : ∃ h ∈ w.holdings, h.script.dir = place ++ [name]
  -- Where a script has or had its directory, the invariant says what stands there now.
  · obtain ⟨h, member, dir⟩ := own
    have old : (place ++ [name], node) ∉ start.nodes := by
      rw [← dir]
      exact not_mem_nodes_of_free (orderly.new _ (Workshop.mem_dirs member))
    rw [or_iff_right old, ← orderly.sound.node?_eq_some_iff (by simp), ← dir]
    constructor
    · intro there
      rw [orderly.held h member, Holding.held] at there
      split at there
      · next keeps => exact ⟨(Option.some.inj there).symm, h, member, keeps, rfl⟩
      · cases there
    · rintro ⟨rfl, x, found, keeps, same⟩
      rw [← same, orderly.held x found, Holding.held_of_keeps keeps]
  -- Elsewhere in the place, everything is as it was in the beginning.
  · have away : ∀ dir ∈ w.dirs, ¬dir <+: place ++ [name] := by
      intro dir among below
      obtain ⟨other, rfl⟩ := orderly.inPlace dir among
      obtain ⟨h, member, dir⟩ := List.mem_map.mp among
      exact own ⟨h, member, eq_of_within_both below List.prefix_rfl ▸ dir⟩
    rw [orderly.outside.nodes _ _ away, or_iff_left]
    rintro ⟨-, h, member, -, dir⟩
    exact own ⟨h, member, dir⟩

end Orderly

end Overseer.Script
