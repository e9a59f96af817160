import Overseer.Proofs.Script.Calls
import Overseer.Proofs.Script.Creation

/-!
# What a call leaves behind

A call to run a script makes a directory of its own, and can go wrong at every stage from there on.
Whatever happens, the directory and what it holds are gone when the call gives its result, and nothing
else has been touched: as long as the child itself adds no entry to a directory, that directory has no
entry behind the call that it did not have before (`ScriptCall.leaves_nothing`).  A call that comes to no
script asks nothing of the system.

The argument follows the directory through the call.  It is made where nothing stands, so nothing lies
below it, and the file of the script can only come to lie in it (`Made`).  When it is removed, what is
left is what was there before.
-/

namespace Overseer.Script

open Overseer.Host Overseer.Host.FileTree Overseer.Os Overseer.Processes Overseer.Text Overseer.Time

namespace EphemeralScript

variable {faults : Faults} {root extension source : String} {dir place : Path}
variable {before after files : FileTree} {script : EphemeralScript} {cause : OsError}

/-! ## Removing the directory -/

/-- A directory that stands is removed with everything in it, and nothing else is. -/
theorem mem_nodes_discard (removes : faults.removal = none) {p : Path} {node : Node} :
    (p, node) ∈ (discard faults dir files).nodes ↔
      (p, node) ∈ files.nodes ∧ (files.node? dir = some .directory → ¬dir <+: p) := by
  have removal : remove faults dir files = ofTree (files.removeTree dir) := by
    rw [remove, removes]
    rfl
  rw [discard, removal, removeTree]
  rcases files.node? dir with _ | stands
  · simp [ofTree]
  · cases stands <;>
      simp [ofTree, eraseIf, Path.within, Bool.eq_false_iff, List.isPrefixOf_iff_prefix]

/-- Removing a fresh directory brings back what was there before. -/
theorem Made.mem_nodes_discard (made : Made dir before after) (connected : before.Connected)
    (removes : faults.removal = none) {p : Path} {node : Node} :
    (p, node) ∈ (discard faults dir after).nodes ↔ (p, node) ∈ before.nodes := by
  rw [EphemeralScript.mem_nodes_discard removes]
  by_cases below : dir <+: p
  · have absent : (p, node) ∉ before.nodes := connected.not_mem_below made.fresh below
    simp [made.stands, below, absent]
  · rw [made.outside p node below]
    simp [below]

/-- When a script could not be written, nothing is left of it. -/
theorem mem_nodes_of_create_error (connected : before.Connected) (removes : faults.removal = none)
    (created : (create faults root extension source).run before = (.error cause, after))
    {p : Path} {node : Node} : (p, node) ∈ after.nodes ↔ (p, node) ∈ before.nodes := by
  cases creates_of_run created with
  | noDirectory => rfl
  | noFile directory =>
    obtain ⟨-, adds⟩ := makeDirectory_ok directory
    exact (made_of_adds adds).mem_nodes_discard connected removes
  | notFilled directory hasFile =>
    obtain ⟨reaches, adds⟩ := makeDirectory_ok directory
    obtain ⟨made, -⟩ := made_of_makeFile connected reaches adds hasFile
    exact made.mem_nodes_discard connected removes

/-! ## The tree stays a tree -/

/-- Removing a directory takes away everything in it, or nothing at all. -/
theorem discard_eq_or : discard faults dir files = files.eraseIf (Path.within dir) ∨
    discard faults dir files = files := by
  unfold discard
  split
  · next left removed =>
    obtain ⟨_, -, removed⟩ := exists_of_bind_eq_ok removed
    have tree := ofTree_eq_ok removed
    unfold removeTree at tree
    split at tree
    · cases tree
    · cases tree
      exact Or.inl rfl
    · cases tree
  · exact Or.inr rfl

theorem connected_discard (connected : files.Connected) :
    (discard faults dir files).Connected := by
  rcases discard_eq_or with removed | same
  · rw [removed]
    exact connected.eraseIf_within
  · rw [same]
    exact connected

/-- Whether the script is written or not, the tree stays a tree. -/
theorem connected_of_create {answer : Except OsError EphemeralScript} (connected : before.Connected)
    (created : (create faults root extension source).run before = (answer, after)) :
    after.Connected := by
  cases creates_of_run created with
  | noDirectory => exact connected
  | noFile directory =>
    obtain ⟨reaches, adds⟩ := makeDirectory_ok directory
    exact connected_discard (connected.of_adds reaches adds)
  | notFilled directory hasFile =>
    obtain ⟨reaches, adds⟩ := makeDirectory_ok directory
    obtain ⟨-, still⟩ := made_of_makeFile connected reaches adds hasFile
    exact connected_discard still
  | whole directory hasFile fill =>
    obtain ⟨reaches, adds⟩ := makeDirectory_ok directory
    obtain ⟨-, still⟩ := made_of_makeFile connected reaches adds hasFile
    exact still.of_nodes (fill_ok fill)

/-! ## Behind the run of the interpreter -/

/-- The directory of a script is not above a place that stood before. -/
theorem Made.not_above (made : Made dir before after) (standing : before.Standing place) :
    ¬dir <+: place := by
  intro above
  cases made.fresh.symm.trans (standing dir above)

/-- When the run added no entry to a place, removing the directory leaves no new entry there. -/
theorem Made.children_discard_subset {ran : FileTree} (made : Made dir before after)
    (removes : faults.removal = none) (standing : before.Standing place)
    (adds : ran.children place ⊆ after.children place) :
    (discard faults dir ran).children place ⊆ before.children place := by
  rintro ⟨name, node⟩ left
  obtain ⟨kept, away⟩ := (EphemeralScript.mem_nodes_discard removes).mp (mem_children.mp left)
  have earlier : (place ++ [name], node) ∈ after.nodes :=
    mem_children.mp (adds (mem_children.mpr kept))
  refine mem_children.mpr ((made.outside _ _ ?_).mp earlier)
  -- The entry is not the directory itself: that was a directory to the end, and was removed.
  intro above
  rcases List.prefix_concat_iff.mp above with rfl | further
  · obtain ⟨last, stood⟩ := exists_node?_of_mem kept
    have entry : (name, last) ∈ ran.children place :=
      mem_children.mpr (mem_nodes_of_node? stood (ne_nil_of_free made.fresh))
    rw [made.alone last (mem_children.mp (adds entry))] at stood
    exact away stood List.prefix_rfl
  · exact made.not_above standing further

/-- An entry of a place that the run spared is still there behind the removal. -/
theorem Made.mem_children_discard {ran : FileTree} {entry : String × Node}
    (made : Made dir before after) (removes : faults.removal = none)
    (standing : before.Standing place) (old : entry ∈ before.children place)
    (spared : entry ∈ after.children place → entry ∈ ran.children place) :
    entry ∈ (discard faults dir ran).children place := by
  obtain ⟨name, node⟩ := entry
  have away : ¬dir <+: place ++ [name] := by
    intro above
    rcases List.prefix_concat_iff.mp above with rfl | further
    · exact not_mem_nodes_of_free made.fresh (mem_children.mp old)
    · exact made.not_above standing further
  have kept : (name, node) ∈ ran.children place :=
    spared (mem_children.mpr ((made.outside _ _ away).mpr (mem_children.mp old)))
  exact mem_children.mpr
    ((EphemeralScript.mem_nodes_discard removes).mpr ⟨mem_children.mp kept, fun _ => away⟩)

end EphemeralScript

/-! ## The whole call -/

section

variable {σ : Type}

/-- Nothing has become an entry of a place. -/
def AddsNothing (place : Path) (before after : FileTree × σ) : Prop :=
  after.1.children place ⊆ before.1.children place

/-- An entry of a place has been left where it was. -/
def Spares (place : Path) (entry : String × Node) (before after : FileTree × σ) : Prop :=
  entry ∈ before.1.children place → entry ∈ after.1.children place

instance (place : Path) : IsPreorder (FileTree × σ) (AddsNothing place) where
  refl _ := List.Subset.refl _
  trans _ _ _ first second := List.Subset.trans second first

instance (place : Path) (entry : String × Node) :
    IsPreorder (FileTree × σ) (Spares place entry) where
  refl _ := id
  trans _ _ _ first second := second ∘ first

variable {R : FileTree × σ → FileTree × σ → Prop} [IsPreorder (FileTree × σ) R]
variable {platform : Platform (FileTree × σ)}

theorem leads_receive (leads : platform.Leads R) (child : Pid) (c : Collection) (news : News) :
    Leads R (c.receive platform child news) := by
  cases news with
  | output stream bytes =>
      dsimp only [Collection.receive]
      split
      · exact leads_bind (leads.hangUp child stream) fun _ => leads_pure _
      · exact leads_pure _
  | ended stream => exact leads_pure _
  | exited => exact leads_bind (leads.collect child) fun _ => leads_pure _
  | quiet => exact leads_pure _

theorem leads_collectFor (leads : platform.Leads R) (child : Pid) (deadline n : Nat)
    (c : Collection) : Leads R (collectFor platform child deadline n c) := by
  induction n generalizing c with
  | zero => exact leads_pure _
  | succ n ih =>
      unfold collectFor
      split
      · exact leads_pure _
      · refine leads_bind leads.clock fun now => ?_
        split
        · exact leads_bind (leads_forceKillGroup leads.kill child) fun _ => leads_pure _
        · refine leads_bind (leads.await child _) fun news => ?_
          exact leads_bind (leads_receive leads child c news) ih

/-- A run of a program does to the system what the system does by itself. -/
theorem leads_runProgram (leads : platform.Leads R) (program : OsText) (arguments : List OsText)
    (timeout : Duration) : Leads R (runProgram platform program arguments timeout) := by
  refine leads_bind leads.clock fun start => ?_
  refine leads_bind (leads.launch _) fun answer => ?_
  cases answer with
  | error cause => exact leads_pure _
  | ok child =>
      refine leads_bind leads.clock fun begun => ?_
      refine leads_bind (leads_collectFor leads child _ collectBound _) fun c => ?_
      refine leads_bind (leads.release child) fun _ => ?_
      exact leads_bind leads.clock fun _ => leads_pure _

end

namespace ScriptCall

variable {σ : Type} {call : ScriptCall σ} {place : Path}

/-- A call that was given no time, or whose script could not be written. -/
def WithoutScript (call : ScriptCall σ) : Prop :=
  call.timeoutSecs = 0 ∨ ∃ cause, call.written.1 = .error cause

/-- A call that comes to no script gives the same on every system, and leaves the rest of the system
alone: nothing has been asked of it. -/
theorem WithoutScript.unasked (without : call.WithoutScript) :
    (∀ platform, ({ call with platform } : ScriptCall σ).after = call.after) ∧
      call.after.2.2 = call.rest := by
  by_cases none : call.timeoutSecs = 0
  · rw [after_of_noTime none]
    refine ⟨fun platform => ?_, rfl⟩
    have other : ({ call with platform } : ScriptCall σ).timeoutSecs = 0 := none
    exact after_of_noTime other
  · obtain ⟨cause, fails⟩ := without.resolve_left none
    have written : call.written = (.error cause, call.written.2) := Prod.ext fails rfl
    rw [after_of_notWritten none written]
    refine ⟨fun platform => ?_, rfl⟩
    have other : ({ call with platform } : ScriptCall σ).timeoutSecs ≠ 0 := none
    exact after_of_notWritten other written

/-- A call that comes to no script leaves the tree as it was. -/
theorem WithoutScript.mem_nodes (without : call.WithoutScript)
    (removes : call.faults.removal = none) (connected : call.files.Connected) {p : Path}
    {node : Node} : (p, node) ∈ call.after.2.1.nodes ↔ (p, node) ∈ call.files.nodes := by
  by_cases none : call.timeoutSecs = 0
  · rw [after_of_noTime none]
  · obtain ⟨cause, fails⟩ := without.resolve_left none
    have written : call.written = (.error cause, call.written.2) := Prod.ext fails rfl
    rw [after_of_notWritten none written]
    exact EphemeralScript.mem_nodes_of_create_error connected removes written

/-- Every other call has written its script to a fresh directory. -/
theorem exists_made_of_not_withoutScript (connected : call.files.Connected)
    (writes : ¬call.WithoutScript) :
    ∃ script written, EphemeralScript.Made script.dir call.files written ∧
      call.after.2.1 =
        EphemeralScript.discard call.faults script.dir (call.ran script written).2.1 := by
  obtain ⟨time, noError⟩ := not_or.mp writes
  cases made : call.written with
  | mk answer written =>
      cases answer with
      | error cause => exact absurd ⟨cause, congrArg Prod.fst made⟩ noError
      | ok script =>
          refine ⟨script, written, EphemeralScript.made_of_create connected made, ?_⟩
          rw [after_of_written time made]

/-- **A call leaves nothing behind.**  Whatever goes wrong and whatever the child does, if it adds no
entry to a directory, the call does not either; every entry that the child spares is still there; and if
there is no time or no script, the tree is as it was and nothing has been asked of the system.  The
directory may be any that stands, in particular the one in which scripts are made
(`standing_of_find`). -/
theorem leaves_nothing (call : ScriptCall σ) (place : Path) (removes : call.faults.removal = none)
    (connected : call.files.Connected) (standing : call.files.Standing place)
    (adds : call.platform.Leads (AddsNothing place)) :
    call.after.2.1.children place ⊆ call.files.children place ∧
      (∀ entry ∈ call.files.children place, call.platform.Leads (Spares place entry) →
        entry ∈ call.after.2.1.children place) ∧
      (call.WithoutScript →
        (∀ platform, ({ call with platform } : ScriptCall σ).after = call.after) ∧
          call.after.2.2 = call.rest ∧
          ∀ p node, (p, node) ∈ call.after.2.1.nodes ↔ (p, node) ∈ call.files.nodes) := by
  refine ⟨?_, ?_, fun without => ⟨without.unasked.1, without.unasked.2,
    fun _ _ => without.mem_nodes removes connected⟩⟩
  · by_cases without : call.WithoutScript
    · rintro ⟨name, node⟩ left
      exact mem_children.mpr ((without.mem_nodes removes connected).mp (mem_children.mp left))
    · obtain ⟨script, written, made, result⟩ := exists_made_of_not_withoutScript connected without
      rw [result]
      exact made.children_discard_subset removes standing (leads_runProgram adds _ _ _ _)
  · rintro ⟨name, node⟩ old spares
    by_cases without : call.WithoutScript
    · exact mem_children.mpr ((without.mem_nodes removes connected).mpr (mem_children.mp old))
    · obtain ⟨script, written, made, result⟩ := exists_made_of_not_withoutScript connected without
      rw [result]
      exact made.mem_children_discard removes standing old fun there =>
        leads_runProgram spares _ _ _ (written, call.rest) there

/-- The tree stays a tree. -/
def StaysConnected (before after : FileTree × σ) : Prop :=
  before.1.Connected → after.1.Connected

instance : IsPreorder (FileTree × σ) StaysConnected where
  refl _ := id
  trans _ _ _ first second := second ∘ first

/-- A call on a system that keeps trees leaves a tree: the next call finds what this one found. -/
theorem connected_after (connected : call.files.Connected)
    (keeps : call.platform.Leads StaysConnected) : call.after.2.1.Connected := by
  by_cases none : call.timeoutSecs = 0
  · rw [after_of_noTime none]
    exact connected
  · cases made : call.written with
    | mk answer written =>
        have still : written.Connected := EphemeralScript.connected_of_create connected made
        cases answer with
        | error cause =>
            rw [after_of_notWritten none made]
            exact still
        | ok script =>
            rw [after_of_written none made]
            exact EphemeralScript.connected_discard
              (leads_runProgram keeps _ _ _ (written, call.rest) still)

/-- A system on which every program hangs, and a second goes by with each look at the clock. -/
def hanging : Platform (FileTree × Nat) where
  clock := fun (files, now) => (now, files, now + 1000000000)
  timeOfDay := pure default
  launch _ := pure (.ok 7)
  await _ _ := pure .quiet
  collect _ := pure (.error (.ofErrno .noChild))
  kill _ := pure (.ok ())
  hangUp _ _ := pure ()
  release _ := pure ()

theorem leads_hanging {R : FileTree × Nat → FileTree × Nat → Prop}
    (still : ∀ files before after, R (files, before) (files, after)) : hanging.Leads R where
  clock _ := still _ _ _
  timeOfDay _ := still _ _ _
  launch _ _ := still _ _ _
  await _ _ _ := still _ _ _
  collect _ _ := still _ _ _
  kill _ _ := still _ _ _
  hangUp _ _ _ := still _ _ _
  release _ _ := still _ _ _

/-- A call whose child hangs, in a tree where a file lies beside the directories of scripts. -/
def besideNotes : ScriptCall Nat where
  faults := {}
  platform := hanging
  runner := {}
  source := "while True: pass"
  timeoutSecs := 5
  args := []
  files := { nodes := [(["tmp"], .directory), (["tmp", "notes"], .file 0)], files := [(0, {})] }
  rest := 0

theorem children_besideNotes :
    besideNotes.after.2.1.children ["tmp"] ⊆ [("notes", .file 0)] ∧
      ("notes", .file 0) ∈ besideNotes.after.2.1.children ["tmp"] := by
  have before : besideNotes.files.children ["tmp"] = [("notes", .file 0)] := by decide
  obtain ⟨subset, spares, -⟩ := leaves_nothing besideNotes ["tmp"] rfl (by decide)
    (by decide) (leads_hanging fun _ _ _ => List.Subset.refl _)
  rw [before] at subset spares
  exact ⟨subset, spares _ List.mem_cons_self (leads_hanging fun _ _ _ => id)⟩

end ScriptCall

end Overseer.Script
