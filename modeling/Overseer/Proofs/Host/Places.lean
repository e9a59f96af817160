import Mathlib.Data.List.Induction
import Mathlib.Data.List.Infix
import Overseer.Host.FileTree
import Overseer.Proofs.Text.Splitting

/-!
# Places in a tree of files

A path text may go through links and back up, and yet the place where it ends is an honest one: all
names on the way stand for directories (`reaches_resolve`).  From that it follows that a file made in a
fresh directory lies in that directory (`createFile_ok`), whatever is asked for as its name behind a
plain beginning: nothing lies below a fresh directory that could lead out of it again.

## Main definitions

* `FileTree.Adds` — one node is new
* `FileTree.Connected` — every node lies in a directory
* `FileTree.Standing` — all directories on the way to a place, and the place itself, are there
* `FileTree.Reaches` — a place that a walk can end at
-/

namespace Overseer.Host

open Overseer.Os

/-- A sequence that gives something has come through its first part. -/
theorem exists_of_bind_eq_ok {ε α β : Type} {first : Except ε α} {next : α → Except ε β} {b : β}
    (ends : first >>= next = .ok b) : ∃ a, first = .ok a ∧ next a = .ok b := by
  cases first with
  | error e => cases ends
  | ok a => exact ⟨a, rfl, ends⟩

namespace FileTree

variable {t : FileTree} {p q dir place : Path} {node : Node} {name : String}

/-! ## Nodes -/

theorem mem_nodes_of_node? (stands : t.node? p = some node) (below : p ≠ []) :
    (p, node) ∈ t.nodes := by
  rw [node?, if_neg (by simpa using below), List.lookup_eq_some_iff] at stands
  obtain ⟨before, behind, split, -⟩ := stands
  rw [split]
  simp

theorem not_mem_nodes_of_free (free : t.node? p = none) : (p, node) ∉ t.nodes := by
  intro member
  unfold node? at free
  split at free
  · cases free
  · simpa using List.lookup_eq_none_iff.mp free (p, node) member

theorem exists_node?_of_mem (member : (p, node) ∈ t.nodes) : ∃ there, t.node? p = some there := by
  cases stands : t.node? p with
  | none => exact absurd member (not_mem_nodes_of_free stands)
  | some there => exact ⟨there, rfl⟩

theorem ne_nil_of_free (free : t.node? p = none) : p ≠ [] := by
  rintro rfl
  cases free

/-- Only the nodes matter for what stands at a path, not what is in the files. -/
theorem node?_of_nodes {after : FileTree} (same : after.nodes = t.nodes) :
    after.node? p = t.node? p := by
  rw [node?, same, node?]

/-- The entries of a directory are the nodes one name below it. -/
theorem mem_children : (name, node) ∈ t.children dir ↔ (dir ++ [name], node) ∈ t.nodes := by
  constructor
  · intro member
    obtain ⟨⟨p, there⟩, stands, entry⟩ := List.mem_filterMap.mp member
    dsimp only at entry
    split at entry
    · cases entry
    · next other =>
      obtain ⟨below, parent⟩ := not_or.mp other
      have nonempty : p ≠ [] := by simpa using below
      cases entry
      have whole : p = dir ++ [Path.fileName p] := by
        rw [← Decidable.not_not.mp parent, Path.fileName, List.getLast?_eq_some_getLast nonempty]
        exact (List.dropLast_concat_getLast nonempty).symm
      rwa [← whole]
  · intro stands
    refine List.mem_filterMap.mpr ⟨_, stands, ?_⟩
    simp [Path.parent, Path.fileName]

/-- One node is new: nothing stood at its path. -/
structure Adds (before after : FileTree) (p : Path) (node : Node) : Prop where
  free : before.node? p = none
  nodes : after.nodes = before.nodes ++ [(p, node)]

theorem adds_insert (free : t.node? p = none) : Adds t (t.insert p node) p node where
  free := free
  nodes := by
    have others : t.nodes.filter (·.1 != p) = t.nodes := by
      rw [List.filter_eq_self]
      rintro ⟨q, there⟩ member
      have other : q ≠ p := by
        rintro rfl
        exact not_mem_nodes_of_free free member
      simpa using other
    rw [insert, others]

theorem Adds.node? {after : FileTree} (adds : Adds t after p node) :
    after.node? q = if q = p then some node else t.node? q := by
  have below := ne_nil_of_free adds.free
  unfold FileTree.node?
  rw [adds.nodes, List.lookup_append]
  split
  · next top =>
    have other : q ≠ p := by
      rintro rfl
      exact below (by simpa using top)
    rw [if_neg other]
  · next inside =>
    split
    · next same =>
      subst same
      have free := adds.free
      unfold FileTree.node? at free
      rw [if_neg inside] at free
      simp [free]
    · next other => simp [List.lookup_cons, beq_false_of_ne other]

theorem Adds.mem_nodes {after : FileTree} {there : Node} (adds : Adds t after p node) :
    (q, there) ∈ after.nodes ↔ (q, there) ∈ t.nodes ∨ (q, there) = (p, node) := by
  rw [adds.nodes, List.mem_append, List.mem_singleton]

/-! ## Trees -/

/-- Every node lies in a directory. -/
def Connected (t : FileTree) : Prop :=
  ∀ entry ∈ t.nodes, t.node? (Path.parent entry.1) = some .directory

instance : Decidable t.Connected :=
  inferInstanceAs (Decidable (∀ entry ∈ t.nodes, t.node? (Path.parent entry.1) = some .directory))

theorem Connected.of_nodes {after : FileTree} (connected : t.Connected)
    (same : after.nodes = t.nodes) : after.Connected := by
  intro entry member
  rw [node?_of_nodes same]
  exact connected entry (same ▸ member)

/-- Where nothing stands, nothing lies below. -/
theorem Connected.not_mem_below (connected : t.Connected) (free : t.node? dir = none)
    (below : dir <+: p) : (p, node) ∉ t.nodes := by
  induction p using List.reverseRecOn generalizing node with
  | nil =>
      rw [List.prefix_nil.mp below] at free
      cases free
  | append_singleton p name ih =>
      intro member
      rcases List.prefix_concat_iff.mp below with rfl | above
      · exact not_mem_nodes_of_free free member
      · have parent : t.node? p = some .directory := by
          simpa [Path.parent] using connected _ member
        have nonempty : p ≠ [] := by
          rintro rfl
          exact ne_nil_of_free free (List.prefix_nil.mp above)
        exact ih above (mem_nodes_of_node? parent nonempty)

theorem Connected.free_below (connected : t.Connected) (free : t.node? dir = none)
    (below : dir <+: p) : t.node? p = none := by
  cases stands : t.node? p with
  | none => rfl
  | some node =>
      have nonempty : p ≠ [] := by
        rintro rfl
        exact ne_nil_of_free free (List.prefix_nil.mp below)
      exact absurd (mem_nodes_of_node? stands nonempty) (connected.not_mem_below free below)

theorem node?_eraseIf {gone : Path → Bool} (kept : gone p = false) :
    (t.eraseIf gone).node? p = t.node? p := by
  unfold node? eraseIf
  split
  · rfl
  · generalize t.nodes = nodes
    induction nodes with
    | nil => rfl
    | cons entry nodes ih =>
        obtain ⟨q, there⟩ := entry
        by_cases same : p = q
        · subst same
          simp [kept]
        · have skips : (p == q) = false := beq_false_of_ne same
          cases out : gone q <;> simp [out, List.lookup_cons, skips, ih]

/-- A tree stays one when a directory is taken away with everything in it. -/
theorem Connected.eraseIf_within (connected : t.Connected) :
    (t.eraseIf (Path.within dir)).Connected := by
  rintro ⟨q, there⟩ member
  obtain ⟨stood, kept⟩ := List.mem_filter.mp member
  have parent := connected _ stood
  have away : Path.within dir (Path.parent q) = false := by
    rw [Bool.eq_false_iff]
    intro above
    have further : dir <+: q :=
      (List.isPrefixOf_iff_prefix.mp above).trans (List.dropLast_prefix q)
    simp [Path.within, List.isPrefixOf_iff_prefix.mpr further] at kept
  rw [node?_eraseIf away, parent]

/-- A place stands, with all directories on the way to it. -/
def Standing (t : FileTree) (place : Path) : Prop :=
  ∀ p, p <+: place → t.node? p = some .directory

instance : Decidable (t.Standing place) :=
  decidable_of_iff (∀ p ∈ place.inits, t.node? p = some .directory)
    (by simp only [List.mem_inits, Standing])

theorem standing_nil : t.Standing [] := by
  intro p top
  rw [List.prefix_nil.mp top]
  rfl

theorem Standing.of_prefix (standing : t.Standing place) (above : p <+: place) : t.Standing p :=
  fun q further => standing q (further.trans above)

theorem Standing.append_singleton (standing : t.Standing place)
    (stands : t.node? (place ++ [name]) = some .directory) : t.Standing (place ++ [name]) := by
  intro p above
  rcases List.prefix_concat_iff.mp above with rfl | further
  · exact stands
  · exact standing p further

/-! ## Names -/

/-- A name that leads from a directory to an entry of it. -/
structure Plain (name : String) : Prop where
  nonempty : name ≠ ""
  notHere : name ≠ "."
  notUp : name ≠ ".."

/-- A name that an entry of a directory can have. -/
structure IsName (name : String) : Prop extends Plain name where
  short : name.length ≤ maxName
  noSlash : '/' ∉ name.toList

instance : Decidable (IsName name) :=
  decidable_of_iff
    ((name ≠ "" ∧ name ≠ "." ∧ name ≠ "..") ∧ name.length ≤ maxName ∧ '/' ∉ name.toList)
    ⟨fun ⟨⟨nonempty, notHere, notUp⟩, short, noSlash⟩ =>
      ⟨⟨nonempty, notHere, notUp⟩, short, noSlash⟩,
      fun isName => ⟨⟨isName.nonempty, isName.notHere, isName.notUp⟩, isName.short, isName.noSlash⟩⟩

theorem slash_not_mem_of_mem_splitPath {text : String} (member : name ∈ splitPath text) :
    '/' ∉ name.toList := by
  obtain ⟨piece, split, rfl⟩ := List.mem_map.mp member
  rw [String.toList_ofList]
  exact Text.not_mem_of_mem_splitOn split

theorem splitPath_append_slash (front behind : String) :
    splitPath (front ++ "/" ++ behind) = splitPath front ++ splitPath behind := by
  have chars : (front ++ "/" ++ behind).toList = front.toList ++ '/' :: behind.toList := by simp
  rw [splitPath, chars, List.splitOn_append_cons_self, List.map_append]
  rfl

/-- A beginning without a slash stays with the first name of a path text. -/
theorem exists_splitPath_append {stem : String} (noSlash : '/' ∉ stem.toList) (text : String) :
    ∃ first rest, splitPath (stem ++ text) = (stem ++ first) :: rest := by
  cases split : text.toList.splitOn '/' with
  | nil => exact absurd split (List.splitOn_ne_nil '/' _)
  | cons first rest =>
      refine ⟨String.ofList first, rest.map String.ofList, ?_⟩
      rw [splitPath, String.toList_append, Text.splitOn_append_of_not_mem noSlash, split,
        List.modifyHead_cons, List.map_cons, String.ofList_append, String.ofList_toList]

theorem splitPath_of_not_mem (noSlash : '/' ∉ name.toList) : splitPath name = [name] := by
  rw [splitPath, List.splitOn_eq_singleton noSlash]
  simp

/-- The text of a place falls into its names again. -/
theorem splitPath_text (nonempty : dir ≠ []) (names : ∀ name ∈ dir, '/' ∉ name.toList) :
    splitPath dir.text = "" :: dir := by
  have chars : dir.text.toList = [] ++ '/' :: List.intercalate ['/'] (dir.map String.toList) := by
    simp [Path.text, String.toList_intercalate]
  have pieces : (List.intercalate ['/'] (dir.map String.toList)).splitOn '/' =
      dir.map String.toList := by
    refine List.splitOn_intercalate '/' ?_ (by simpa using nonempty)
    intro piece member
    obtain ⟨name, among, rfl⟩ := List.mem_map.mp member
    exact names name among
  rw [splitPath, chars, List.splitOn_append_cons_self, pieces, List.splitOn_nil]
  simp [Function.comp_def]

/-! ## Walks -/

/-- A walk can end at a place: the directory in which the place lies stands, and its names are those
of entries. -/
structure Reaches (t : FileTree) (place : Path) : Prop where
  parent : t.Standing place.parent
  names : ∀ name ∈ place, IsName name

/-- Strictly above a place that a walk can end at, everything is a directory. -/
theorem Reaches.node?_above (reaches : t.Reaches place) (above : p <+: place) (strict : p ≠ place) :
    t.node? p = some .directory := by
  rcases List.eq_nil_or_concat place with rfl | ⟨front, last, rfl⟩
  · exact absurd (List.prefix_nil.mp above) strict
  · rw [List.concat_eq_append] at above strict reaches
    have further : p <+: front := (List.prefix_concat_iff.mp above).resolve_left strict
    refine reaches.parent p ?_
    simpa [Path.parent] using further

theorem reaches_of_standing (standing : t.Standing place) (names : ∀ name ∈ place, IsName name) :
    t.Reaches place :=
  ⟨standing.of_prefix (List.dropLast_prefix place), names⟩

/-- From a directory a walk can end one name further on. -/
theorem Standing.reaches_append_singleton (standing : t.Standing place)
    (names : ∀ name ∈ place, IsName name) (further : IsName name) : t.Reaches (place ++ [name]) where
  parent := by simpa [Path.parent] using standing
  names := by
    intro other member
    rcases List.mem_append.mp member with before | last
    · exact names other before
    · rwa [List.mem_singleton.mp last]

/-- A name of a path text that a walk does not skip is that of an entry. -/
theorem isName_of_walked (kept : ¬(name.isEmpty ∨ name = ".")) (down : name ≠ "..")
    (short : ¬maxName < name.length) (noSlash : '/' ∉ name.toList) : IsName name where
  nonempty := fun empty => kept (Or.inl (String.isEmpty_iff.mpr empty))
  notHere := fun here => kept (Or.inr here)
  notUp := down
  short := Nat.le_of_not_lt short
  noSlash := noSlash

/-- A walk ends at an honest place. -/
theorem reaches_walk {follow : Bool} {links : Nat} {at_ : Path} {names : List String}
    (standing : t.Standing at_) (known : ∀ name ∈ at_, IsName name)
    (pieces : ∀ name ∈ names, '/' ∉ name.toList)
    (ends : t.walk follow links at_ names = .ok place) : t.Reaches place := by
  -- All along, the walk is in a directory that stands; a link leads back to that one or to the root.
  fun_induction walk t follow links at_ names with
  | case1 =>
      cases ends
      exact reaches_of_standing standing known
  | case2 links at_ name rest skipped ih =>
      exact ih standing known (fun _ later => pieces _ (List.mem_cons_of_mem _ later)) ends
  | case3 links at_ rest up ih =>
      have above : at_.parent <+: at_ := List.dropLast_prefix at_
      exact ih (standing.of_prefix above) (fun _ member => known _ (above.subset member))
        (fun _ later => pieces _ (List.mem_cons_of_mem _ later)) ends
  | case4 | case6 | case9 | case12 => cases ends
  | case5 links at_ name rest kept down short next free last =>
      rw [← Except.ok.inj ends]
      exact standing.reaches_append_singleton known
        (isName_of_walked kept down short (pieces name List.mem_cons_self))
  | case7 links at_ name rest kept down short next directory ih =>
      have reaches := standing.reaches_append_singleton known
        (isName_of_walked kept down short (pieces name List.mem_cons_self))
      exact ih (standing.append_singleton directory) reaches.names
        (fun _ later => pieces _ (List.mem_cons_of_mem _ later)) ends
  | case8 links at_ name rest kept down short next target link last =>
      rw [← Except.ok.inj ends]
      exact standing.reaches_append_singleton known
        (isName_of_walked kept down short (pieces name List.mem_cons_self))
  | case10 at_ name rest kept down short next target link further links start ih =>
      have above : start <+: at_ := by
        dsimp only [start]
        split
        · exact List.nil_prefix
        · exact List.prefix_rfl
      refine ih (standing.of_prefix above) (fun _ member => known _ (above.subset member)) ?_ ends
      intro piece member
      rcases List.mem_append.mp member with inTarget | later
      · exact slash_not_mem_of_mem_splitPath inTarget
      · exact pieces _ (List.mem_cons_of_mem _ later)
  | case11 links at_ name rest kept down short next other _ _ stands last =>
      rw [← Except.ok.inj ends]
      exact standing.reaches_append_singleton known
        (isName_of_walked kept down short (pieces name List.mem_cons_self))

/-- From the root, a path text is walked along its names. -/
theorem walk_of_resolve {text : String} {follow : Bool}
    (resolved : t.resolve [] text follow = .ok place) :
    t.walk follow maxLinks [] (splitPath text) = .ok place := by
  unfold resolve at resolved
  split at resolved
  · cases resolved
  · split at resolved
    · cases resolved
    · rwa [ite_self] at resolved

theorem reaches_resolve {text : String} {follow : Bool}
    (resolved : t.resolve [] text follow = .ok place) : t.Reaches place :=
  reaches_walk standing_nil (by simp) (fun _ => slash_not_mem_of_mem_splitPath)
    (walk_of_resolve resolved)

/-- A directory that can be found stands, with all directories on the way to it. -/
theorem standing_of_find {text : String} {follow : Bool}
    (found : t.find [] text follow = .ok (place, .directory)) : t.Standing place := by
  obtain ⟨there, resolved, found⟩ := exists_of_bind_eq_ok found
  cases stands : t.node? there with
  | none =>
      rw [stands] at found
      cases found
  | some node =>
      rw [stands] at found
      cases found
      intro p above
      by_cases same : p = place
      · rw [same, stands]
      · exact (reaches_resolve resolved).node?_above above same

/-! ## New entries -/

/-- A walk goes down along the names of directories. -/
theorem walk_along {follow : Bool} {links : Nat} {at_ names : Path} {rest : List String}
    (standing : t.Standing (at_ ++ names)) (known : ∀ name ∈ names, IsName name) :
    t.walk follow links at_ (names ++ rest) = t.walk follow links (at_ ++ names) rest := by
  induction names generalizing at_ with
  | nil => simp
  | cons name names ih =>
      have first := known name List.mem_cons_self
      have stands : t.node? (at_ ++ [name]) = some .directory :=
        standing _ ⟨names, by simp⟩
      rw [List.cons_append, walk]
      simp only [String.isEmpty_iff, first.nonempty, first.notHere, first.notUp, or_self, if_false,
        Nat.not_lt.mpr first.short, stands]
      rw [ih (by simpa using standing) fun _ later => known _ (List.mem_cons_of_mem _ later)]
      simp

/-- A walk goes no further than to a name that is free, and only if that is the last one. -/
theorem walk_into_free {follow : Bool} {links : Nat} {first : String} {rest : List String}
    (plain : Plain first) (free : t.node? (dir ++ [first]) = none)
    (ends : t.walk follow links dir (first :: rest) = .ok place) :
    place = dir ++ [first] ∧ nothingLeft rest = true := by
  rw [walk] at ends
  simp only [String.isEmpty_iff, plain.nonempty, plain.notHere, plain.notUp, or_self, if_false,
    free] at ends
  split at ends
  · cases ends
  · split at ends
    · next last =>
      cases ends
      exact ⟨rfl, last⟩
    · cases ends

/-- Where nothing lies in a directory, a walk goes one name on from there at most. -/
theorem walk_into_empty {follow : Bool} {links : Nat} {first : String} {rest : List String}
    (plain : Plain first) (empty : ∀ p, dir <+: p → p ≠ dir → t.node? p = none)
    (ends : t.walk follow links dir (first :: rest) = .ok place) : place = dir ++ [first] :=
  (walk_into_free plain (empty _ (List.prefix_append _ _) (by simp)) ends).1

/-- A new directory is made where nothing stands. -/
theorem makeDirectory_ok {text : String} {made : FileTree}
    (ends : t.makeDirectory [] text = .ok (dir, made)) :
    t.Reaches dir ∧ Adds t made dir .directory := by
  obtain ⟨there, resolved, ends⟩ := exists_of_bind_eq_ok ends
  cases free : t.node? there with
  | some node =>
      rw [free] at ends
      cases ends
  | none =>
      rw [free] at ends
      cases ends
      exact ⟨reaches_resolve resolved, adds_insert free⟩

/-- A tree stays one when a node is added at the end of a walk. -/
theorem Connected.of_adds {after : FileTree} (connected : t.Connected) (reaches : t.Reaches p)
    (adds : Adds t after p node) : after.Connected := by
  rintro ⟨q, there⟩ member
  have parent : t.node? (Path.parent q) = some .directory := by
    rcases adds.mem_nodes.mp member with earlier | new
    · exact connected _ earlier
    · cases new
      exact reaches.parent _ List.prefix_rfl
  have other : Path.parent q ≠ p := by
    intro same
    rw [same, adds.free] at parent
    cases parent
  rw [adds.node?, if_neg other, parent]

/-- A directory that is made at the end of a walk stands. -/
theorem Reaches.standing_of_adds {after : FileTree} (reaches : t.Reaches dir)
    (adds : Adds t after dir .directory) : after.Standing dir := by
  intro p above
  rw [adds.node?]
  split
  · rfl
  · next other => exact reaches.node?_above above other

/-- Nothing lies in a directory that has been made. -/
theorem Connected.empty_of_adds {after : FileTree} (connected : t.Connected)
    (adds : Adds t after dir .directory) (below : dir <+: p) (inside : p ≠ dir) :
    after.node? p = none := by
  rw [adds.node?, if_neg inside]
  exact connected.free_below adds.free below

/-- **A file that is made in an empty directory lies in it**, whatever its name is behind a plain
beginning. -/
theorem createFile_ok {path : Path} {first : String} {rest : List String} {mode id : Nat} {made : FileTree}
    (standing : t.Standing dir) (known : ∀ name ∈ dir, IsName name) (below : dir ≠ [])
    (empty : ∀ p, dir <+: p → p ≠ dir → t.node? p = none)
    (split : splitPath name = first :: rest) (plain : Plain first)
    (ends : t.createFile [] (dir.text ++ "/" ++ name) mode = .ok (path, id, made)) :
    dir <+: path ∧ t.Reaches path ∧ Adds t made path (.file id) := by
  have pieces : splitPath (dir.text ++ "/" ++ name) = "" :: dir ++ (first :: rest) := by
    rw [splitPath_append_slash, splitPath_text below fun _ member => (known _ member).noSlash, split]
  obtain ⟨place, resolved, ends⟩ := exists_of_bind_eq_ok ends
  have ended : place = dir ++ [first] := by
    have walked := walk_of_resolve resolved
    rw [pieces, List.cons_append, walk, if_pos (by simp), walk_along (by simpa using standing) known,
      List.nil_append] at walked
    exact walk_into_empty plain empty walked
  have free : t.node? place = none := by
    rw [ended]
    exact empty _ (List.prefix_append _ _) (by simp)
  rw [free] at ends
  dsimp only at ends
  split at ends
  · cases ends
  · cases ends
    exact ⟨ended ▸ List.prefix_append _ _, reaches_resolve resolved,
      ⟨free, (adds_insert free).nodes⟩⟩

/-! ## Entries by their place -/

section

variable (standing : t.Standing dir) (known : ∀ name ∈ dir, IsName name) (below : dir ≠ [])
variable (entry : IsName name) (short : (dir.text ++ "/" ++ name).length ≤ maxPath)
variable (free : t.node? (dir ++ [name]) = none)

include standing known below entry short free

omit entry short free in
/-- The text of a standing directory is resolved to its place. -/
theorem resolve_text (short : dir.text.length ≤ maxPath) : t.resolve [] dir.text true = .ok dir := by
  have pieces : splitPath dir.text = "" :: dir ++ [] := by
    rw [splitPath_text below fun _ member => (known _ member).noSlash, List.append_nil]
  have nonempty : dir.text.isEmpty = false := by simp [Path.text]
  rw [resolve, nonempty, if_neg Bool.false_ne_true, if_neg (Nat.not_lt.mpr short), ite_self, pieces,
    List.cons_append, walk, if_pos (by simp), walk_along (by simpa using standing) known, walk,
    List.nil_append]

omit entry short free in
/-- The text of a standing directory leads nowhere else. -/
theorem eq_of_find_text (short : dir.text.length ≤ maxPath) {there : Path} {node : Node}
    (found : t.find [] dir.text true = .ok (there, node)) : there = dir := by
  rw [find, resolve_text standing known below short] at found
  dsimp only [bind, Except.bind] at found
  split at found
  · cases found
    rfl
  · cases found

/-- A free name in a standing directory is resolved to its place. -/
theorem resolve_entry : t.resolve [] (dir.text ++ "/" ++ name) true = .ok (dir ++ [name]) := by
  have nonempty : (dir.text ++ "/" ++ name).isEmpty = false := by simp
  have pieces : splitPath (dir.text ++ "/" ++ name) = "" :: dir ++ [name] := by
    rw [splitPath_append_slash, splitPath_text below fun _ member => (known _ member).noSlash,
      splitPath_of_not_mem entry.noSlash]
  rw [resolve, nonempty, if_neg Bool.false_ne_true, if_neg (Nat.not_lt.mpr short), ite_self, pieces,
    List.cons_append, walk, if_pos (by simp), walk_along (by simpa using standing) known, walk]
  simp only [List.nil_append, String.isEmpty_iff, entry.nonempty, entry.notHere, entry.notUp, or_self,
    if_false, Nat.not_lt.mpr entry.short, free]
  rfl

theorem makeDirectory_entry :
    t.makeDirectory [] (dir.text ++ "/" ++ name) =
      .ok (dir ++ [name], t.insert (dir ++ [name]) .directory) := by
  rw [makeDirectory, resolve_entry standing known below entry short free]
  dsimp only [bind, Except.bind]
  rw [free]

theorem exists_createFile_entry (mode : Nat) :
    ∃ made, t.createFile [] (dir.text ++ "/" ++ name) mode =
      .ok (dir ++ [name], t.nextFile, made) ∧ made.nextTag = t.nextTag := by
  have file : (dir.text ++ "/" ++ name).endsWith "/" = false := by
    rw [String.endsWith_eq_endsWith_toSlice, ← Bool.not_eq_true, String.Slice.endsWith_string_iff]
    rintro ⟨front, ends⟩
    have nonempty : name.toList ≠ [] := by simpa using entry.nonempty
    have last := congrArg List.getLast? ends
    simp only [String.copy_toSlice, String.toList_append] at last
    rw [List.getLast?_append_of_ne_nil _ (by decide), List.getLast?_append_of_ne_nil _ nonempty]
      at last
    exact entry.noSlash (List.mem_of_getLast? last.symm)
  rw [createFile, resolve_entry standing known below entry short free]
  dsimp only [bind, Except.bind]
  rw [free, file]
  exact ⟨_, rfl, rfl⟩

end

end FileTree

end Overseer.Host
