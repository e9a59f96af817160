import Mathlib.Data.List.Nodup
import Overseer.Proofs.Host.Places

/-!
# Sound trees, and what a change leaves alone

A system keeps its tree *sound*: every node lies in a directory, no path is listed twice, and the numbers
of files are below the next one to be given out.  In such a tree, what stands at a path is what is listed
there (`Sound.node?_eq_some_iff`).

Two trees *agree* at some paths when the nodes there and what is in the files there are the same.  A change
that concerns one directory leaves trees that agree outside of it; as entries of one place have nothing
below them in common (`eq_of_within_both`), such a change leaves every other entry of the place alone
(`Agree.sibling`).

## Main definitions

* `FileTree.Sound` — a tree as a system keeps it
* `FileTree.Agree` — two trees are the same at some paths
-/

namespace Overseer.Host

namespace FileTree

variable {t after : FileTree} {p dir place : Path} {node : Node}

/-! ## Sound trees -/

/-- A tree as a system keeps it. -/
structure Sound (t : FileTree) : Prop where
  connected : t.Connected
  unique : (t.nodes.map Prod.fst).Nodup
  numbered : ∀ p id, (p, Node.file id) ∈ t.nodes → id < t.nextFile

namespace Sound

/-- What stands at a path is what is listed there. -/
theorem node?_eq_some_iff (sound : t.Sound) (below : p ≠ []) :
    t.node? p = some node ↔ (p, node) ∈ t.nodes := by
  refine ⟨fun stands => mem_nodes_of_node? stands below, fun member => ?_⟩
  obtain ⟨there, stands⟩ := exists_node?_of_mem member
  have same := List.inj_on_of_nodup_map sound.unique member (mem_nodes_of_node? stands below) rfl
  rw [stands, (Prod.mk.inj same).2]

theorem of_nodes (sound : t.Sound) (same : after.nodes = t.nodes) (later : t.nextFile ≤ after.nextFile) :
    after.Sound where
  connected := sound.connected.of_nodes same
  unique := by rw [same]; exact sound.unique
  numbered p id member := Nat.lt_of_lt_of_le (sound.numbered p id (same ▸ member)) later

/-- A tree stays sound when a node is added at the end of a walk. -/
theorem of_adds (sound : t.Sound) (reaches : t.Reaches p) (adds : Adds t after p node)
    (later : t.nextFile ≤ after.nextFile) (given : ∀ id, node = .file id → id < after.nextFile) :
    after.Sound where
  connected := sound.connected.of_adds reaches adds
  unique := by
    rw [adds.nodes, List.map_append, List.nodup_append]
    refine ⟨sound.unique, List.nodup_singleton _, ?_⟩
    rintro q earlier r new rfl
    obtain ⟨⟨q, there⟩, member, rfl⟩ := List.mem_map.mp earlier
    obtain rfl : q = p := by simpa using new
    exact not_mem_nodes_of_free adds.free member
  numbered q id member := by
    rcases adds.mem_nodes.mp member with earlier | new
    · exact Nat.lt_of_lt_of_le (sound.numbered q id earlier) later
    · exact given id (Prod.mk.inj new).2.symm

/-- A tree stays sound when a directory is taken away with everything in it. -/
theorem eraseIf_within (sound : t.Sound) : (t.eraseIf (Path.within dir)).Sound where
  connected := sound.connected.eraseIf_within
  unique := sound.unique.sublist (List.filter_sublist.map Prod.fst)
  numbered p id member := sound.numbered p id (List.mem_of_mem_filter member)

end Sound

/-! ## What a change leaves alone -/

/-- At some paths, two trees have the same nodes and the same in their files. -/
structure Agree (at_ : Path → Prop) (before after : FileTree) : Prop where
  nodes : ∀ p node, at_ p → ((p, node) ∈ after.nodes ↔ (p, node) ∈ before.nodes)
  contents : ∀ p id, at_ p → (p, Node.file id) ∈ before.nodes → after.contents id = before.contents id

namespace Agree

variable {at_ here : Path → Prop}

theorem refl (at_ : Path → Prop) (t : FileTree) : Agree at_ t t :=
  ⟨fun _ _ _ => Iff.rfl, fun _ _ _ _ => rfl⟩

theorem mono (agree : Agree at_ t after) (fewer : ∀ p, here p → at_ p) : Agree here t after where
  nodes p node inside := agree.nodes p node (fewer p inside)
  contents p id inside := agree.contents p id (fewer p inside)

theorem trans {between : FileTree} (first : Agree at_ t between) (second : Agree at_ between after) :
    Agree at_ t after where
  nodes p node inside := (second.nodes p node inside).trans (first.nodes p node inside)
  contents p id inside member := by
    rw [second.contents p id inside ((first.nodes p _ inside).mpr member)]
    exact first.contents p id inside member

/-- The same stands at a path at which two sound trees agree. -/
theorem node?_eq (agree : Agree at_ t after) (sound : t.Sound) (still : after.Sound) (inside : at_ p) :
    after.node? p = t.node? p := by
  by_cases top : p = []
  · rw [top]
    rfl
  · refine Option.ext fun node => ?_
    rw [still.node?_eq_some_iff top, sound.node?_eq_some_iff top]
    exact agree.nodes p node inside

end Agree

/-- Taking a directory away leaves everything outside of it alone. -/
theorem Agree.eraseIf_within : Agree (¬dir <+: ·) t (t.eraseIf (Path.within dir)) where
  nodes p node away := by
    rw [eraseIf, List.mem_filter, Path.within, Bool.not_eq_true', Bool.eq_false_iff]
    exact and_iff_left fun within => away (List.isPrefixOf_iff_prefix.mp within)
  contents _ _ _ _ := rfl

/-- Two entries of one place have nothing below them in common. -/
theorem eq_of_within_both {one other : String} (below : place ++ [one] <+: p)
    (belowOther : place ++ [other] <+: p) : one = other := by
  have same : place ++ [one] = place ++ [other] := by
    refine List.IsPrefix.eq_of_length ?_ (by simp)
    exact List.prefix_of_prefix_length_le below belowOther (by simp)
  simpa using same

/-- A change inside one entry of a place leaves every other one alone. -/
theorem Agree.sibling {one other : String} (agree : Agree (¬place ++ [one] <+: ·) t after)
    (different : other ≠ one) : Agree (place ++ [other] <+: ·) t after :=
  agree.mono fun _ inside below => different (eq_of_within_both inside below)

/-- A change inside an entry of a standing place leaves the place standing. -/
theorem Agree.standing {name : String} (agree : Agree (¬place ++ [name] <+: ·) t after) (sound : t.Sound)
    (still : after.Sound) (standing : t.Standing place) : after.Standing place := by
  intro p above
  have outside : ¬place ++ [name] <+: p := by
    intro below
    have length := (below.trans above).length_le
    simp only [List.length_append, List.length_singleton] at length
    omega
  rw [agree.node?_eq sound still outside, standing p above]

end FileTree

end Overseer.Host
