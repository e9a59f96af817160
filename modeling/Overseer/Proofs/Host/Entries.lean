import Overseer.Proofs.Host.Places

/-!
# Where new entries lie

A directory is made at the text of a root and a fresh name behind it, and a file at the text of a directory
and a name that somebody asked for.  Both texts are resolved like any other, links and all.  What is made
lies where the text says nevertheless: a walk that has come to a directory goes on from there
(`walk_append`), and one that has come to something else does not go on (`walk_append_of_not_directory`).

What is in a file is kept apart from its name, by number, and a change of one file leaves the others alone
(`contents_modifyContents_of_ne`).
-/

namespace Overseer.Host

open Overseer.Os

namespace FileTree

variable {t after : FileTree} {dir place : Path} {name : String}

/-! ## Walks that go on -/

/-- A walk that has come to a directory goes on from there. -/
theorem walk_append {follow : Bool} {links : Nat} {at_ : Path} {names : List String}
    (rest : List String) (follows : follow = true)
    (ends : t.walk follow links at_ names = .ok place) (directory : t.node? place = some .directory) :
    ∃ left, t.walk follow links at_ (names ++ rest) = t.walk follow left place rest := by
  fun_induction walk t follow links at_ names with
  | case1 links at_ =>
      cases ends
      exact ⟨links, rfl⟩
  | case2 links at_ name more skipped ih =>
      rw [List.cons_append, walk, if_pos skipped]
      exact ih ends
  | case3 links at_ more up ih =>
      rw [List.cons_append, walk, if_neg up, if_pos rfl]
      exact ih ends
  | case4 | case6 | case9 | case12 => cases ends
  | case5 links at_ name more kept down short next free last =>
      rw [← Except.ok.inj ends, free] at directory
      cases directory
  | case7 links at_ name more kept down short next stands ih =>
      simp only [next] at stands
      rw [List.cons_append, walk, if_neg kept, if_neg down, if_neg short]
      simp only [stands]
      exact ih ends
  | case8 links at_ name more kept down short next target link last => exact absurd follows last.2
  | case10 at_ name more kept down short next target link further links start ih =>
      have onward : ¬((more ++ rest).isEmpty = true ∧ ¬follow = true) := fun last => last.2 follows
      simp only [next] at link
      rw [List.cons_append, walk, if_neg kept, if_neg down, if_neg short]
      simp only [link, if_neg onward]
      rw [← List.append_assoc]
      exact ih ends
  | case11 links at_ name more kept down short next other noDirectory _ stands last =>
      rw [← Except.ok.inj ends, stands] at directory
      exact absurd (Option.some.inj directory) noDirectory

/-- A walk that has come to no directory ends there. -/
theorem walk_append_of_not_directory {follow : Bool} {links : Nat} {at_ : Path} {names rest : List String}
    (follows : follow = true) (standing : t.Standing at_)
    (ends : t.walk follow links at_ names = .ok place) (other : t.node? place ≠ some .directory)
    (more : nothingLeft rest = false) (there : Path) :
    t.walk follow links at_ (names ++ rest) ≠ .ok there := by
  have left : ∀ names, nothingLeft (names ++ rest) = false := by
    intro names
    simp only [nothingLeft, List.all_append] at more ⊢
    rw [more, Bool.and_false]
  fun_induction walk t follow links at_ names with
  | case1 links at_ =>
      rw [← Except.ok.inj ends] at other
      exact absurd (standing at_ List.prefix_rfl) other
  | case2 links at_ name more skipped ih =>
      rw [List.cons_append, walk, if_pos skipped]
      exact ih standing ends
  | case3 links at_ more up ih =>
      rw [List.cons_append, walk, if_neg up, if_pos rfl]
      exact ih (standing.of_prefix (List.dropLast_prefix at_)) ends
  | case4 | case6 | case9 | case12 => cases ends
  | case5 links at_ name more kept down short next free last =>
      simp only [next] at free
      rw [List.cons_append, walk, if_neg kept, if_neg down, if_neg short]
      simp [free, left]
  | case7 links at_ name more kept down short next stands ih =>
      have onward := standing.append_singleton stands
      simp only [next] at stands
      rw [List.cons_append, walk, if_neg kept, if_neg down, if_neg short]
      simp only [stands]
      exact ih onward ends
  | case8 links at_ name more kept down short next target link last => exact absurd follows last.2
  | case10 at_ name more kept down short next target link further links start ih =>
      have onward : ¬((more ++ rest).isEmpty = true ∧ ¬follow = true) := fun last => last.2 follows
      have above : start <+: at_ := by
        dsimp only [start]
        split
        · exact List.nil_prefix
        · exact List.prefix_rfl
      simp only [next] at link
      rw [List.cons_append, walk, if_neg kept, if_neg down, if_neg short]
      simp only [link, if_neg onward]
      rw [← List.append_assoc]
      exact ih (standing.of_prefix above) ends
  | case11 links at_ name more kept down short next node noDirectory noLink stands last =>
      have onward : (more ++ rest).isEmpty = false := by
        rw [Bool.eq_false_iff]
        intro empty
        have := left more
        rw [List.isEmpty_iff.mp empty] at this
        cases this
      simp only [next] at stands
      rw [List.cons_append, walk, if_neg kept, if_neg down, if_neg short]
      cases node with
      | directory => exact absurd rfl noDirectory
      | link target => exact absurd rfl (noLink target)
      | _ => simp [stands, onward]

/-- Only the nodes matter for where a walk ends. -/
theorem walk_of_nodes {after : FileTree} (same : after.nodes = t.nodes) (follow : Bool) (links : Nat)
    (at_ : Path) (names : List String) :
    after.walk follow links at_ names = t.walk follow links at_ names := by
  fun_induction walk t follow links at_ names with
  | case1 => rw [walk]
  | case2 links at_ name rest skipped ih => rw [walk, if_pos skipped, ih]
  | case3 links at_ rest up ih => rw [walk, if_neg up, if_pos rfl, ih]
  | case4 links at_ name rest kept down long => rw [walk, if_neg kept, if_neg down, if_pos long]
  | case8 links at_ name rest kept down short next target link last =>
      simp only [next] at link
      rw [walk, if_neg kept, if_neg down, if_neg short]
      simp only [node?_of_nodes same, link, if_pos last]
      rfl
  | case5 links at_ name rest kept down short next free last =>
      simp only [next] at free
      rw [walk, if_neg kept, if_neg down, if_neg short]
      simp only [node?_of_nodes same, free, if_pos last]
      rfl
  | case6 links at_ name rest kept down short next free more =>
      simp only [next] at free
      rw [walk, if_neg kept, if_neg down, if_neg short]
      simp only [node?_of_nodes same, free, if_neg more]
  | case7 links at_ name rest kept down short next stands ih =>
      simp only [next] at stands
      rw [walk, if_neg kept, if_neg down, if_neg short]
      simp only [node?_of_nodes same, stands]
      exact ih
  | case9 at_ name rest kept down short next target link further =>
      simp only [next] at link
      rw [walk, if_neg kept, if_neg down, if_neg short]
      simp only [node?_of_nodes same, link, if_neg further]
  | case10 at_ name rest kept down short next target link further links start ih =>
      simp only [next] at link
      rw [walk, if_neg kept, if_neg down, if_neg short]
      simp only [node?_of_nodes same, link, if_neg further]
      exact ih
  | case11 links at_ name rest kept down short next node noDirectory noLink stands last =>
      simp only [next] at stands
      rw [walk, if_neg kept, if_neg down, if_neg short]
      cases node with
      | directory => exact absurd rfl noDirectory
      | link target => exact absurd rfl (noLink target)
      | _ =>
          simp only [node?_of_nodes same, stands, if_pos last]
          rfl
  | case12 links at_ name rest kept down short next node noDirectory noLink stands more =>
      simp only [next] at stands
      rw [walk, if_neg kept, if_neg down, if_neg short]
      cases node with
      | directory => exact absurd rfl noDirectory
      | link target => exact absurd rfl (noLink target)
      | _ => simp only [node?_of_nodes same, stands, if_neg more]

theorem resolve_of_nodes {after : FileTree} (same : after.nodes = t.nodes) (cwd : Path) (text : String)
    (follow : Bool) : after.resolve cwd text follow = t.resolve cwd text follow := by
  rw [resolve, resolve, walk_of_nodes same]

/-! ## New entries by their names -/

/-- A path text of which nothing is left behind its first name ends with a slash if it has one. -/
theorem slash_not_mem_of_nothingLeft {first : String} {rest : List String}
    (split : splitPath name = first :: rest) (nothing : nothingLeft rest = true)
    (open_ : ¬['/'] <:+ name.toList) : '/' ∉ name.toList := by
  intro member
  obtain ⟨behind, front, reversed, last⟩ := List.eq_append_cons_of_mem (List.mem_reverse.mpr member)
  have whole : name.toList = front.reverse ++ '/' :: behind.reverse := by
    simpa using congrArg List.reverse reversed
  have noSlash : '/' ∉ (String.ofList behind.reverse).toList := by simpa using last
  have pieces : splitPath name =
      splitPath (String.ofList front.reverse) ++ [String.ofList behind.reverse] := by
    have text : name = String.ofList front.reverse ++ "/" ++ String.ofList behind.reverse := by
      rw [← String.toList_inj]
      simp [whole]
    conv_lhs => rw [text]
    rw [splitPath_append_slash, splitPath_of_not_mem noSlash]
  obtain ⟨x, xs, front_⟩ := List.exists_cons_of_ne_nil
    (show splitPath (String.ofList front.reverse) ≠ [] by simp [splitPath])
  rw [pieces, front_, List.cons_append, List.cons.injEq] at split
  have empty : (String.ofList behind.reverse).isEmpty = true := by
    refine List.all_eq_true.mp nothing _ ?_
    rw [← split.2]
    simp
  have none : behind = [] := by simpa using empty
  exact open_ ⟨front.reverse, by simp [whole, none]⟩

/-- **A directory that is made by a name under a root lies in the directory to which the root leads**, if
the name is free there. -/
theorem makeDirectory_under {root : String} {made : FileTree}
    (resolved : t.resolve [] root true = .ok place) (plain : Plain name) (noSlash : '/' ∉ name.toList)
    (ends : t.makeDirectory [] (root ++ "/" ++ name) = .ok (dir, made)) :
    t.node? place = some .directory ∧ (t.node? (place ++ [name]) = none → dir = place ++ [name]) := by
  obtain ⟨there, ended, ends⟩ := exists_of_bind_eq_ok ends
  obtain rfl : there = dir := by
    split at ends
    · cases ends
    · cases ends
      rfl
  have walked := walk_of_resolve ended
  rw [splitPath_append_slash, splitPath_of_not_mem noSlash] at walked
  have led := walk_of_resolve resolved
  by_cases directory : t.node? place = some .directory
  · refine ⟨directory, fun free => ?_⟩
    obtain ⟨left, onward⟩ := walk_append [name] rfl led directory
    rw [onward] at walked
    exact (walk_into_free plain free walked).1
  · have more : nothingLeft [name] = false := by simp [nothingLeft, plain.nonempty]
    exact absurd walked (walk_append_of_not_directory rfl standing_nil led directory more there)

/-- **A file that is made in an empty directory has the name that was asked for**, whatever that ends
in, and a number that no file had before. -/
theorem createFile_under {path : Path} {first : String} {rest : List String} {mode id : Nat}
    {made : FileTree} (standing : t.Standing dir) (known : ∀ name ∈ dir, IsName name) (below : dir ≠ [])
    (empty : ∀ p, dir <+: p → p ≠ dir → t.node? p = none)
    (split : splitPath name = first :: rest) (plain : Plain first)
    (ends : t.createFile [] (dir.text ++ "/" ++ name) mode = .ok (path, id, made)) :
    path = dir ++ [name] ∧ id = t.nextFile ∧ made.nextFile = t.nextFile + 1 ∧
      made.files = (t.nextFile, { mode }) :: t.files := by
  have pieces : splitPath (dir.text ++ "/" ++ name) = "" :: dir ++ (first :: rest) := by
    rw [splitPath_append_slash, splitPath_text below fun _ member => (known _ member).noSlash, split]
  have free : t.node? (dir ++ [first]) = none := empty _ (List.prefix_append _ _) (by simp)
  obtain ⟨place, resolved, ends⟩ := exists_of_bind_eq_ok ends
  have walked := walk_of_resolve resolved
  rw [pieces, List.cons_append, walk, if_pos (by simp), walk_along (by simpa using standing) known,
    List.nil_append] at walked
  obtain ⟨ended, nothing⟩ := walk_into_free plain free walked
  rw [ended, free] at ends
  dsimp only at ends
  split at ends
  · cases ends
  · next file =>
    have open_ : ¬['/'] <:+ name.toList := by
      rintro ⟨front, whole⟩
      refine file ?_
      rw [String.endsWith_eq_endsWith_toSlice, String.Slice.endsWith_string_iff]
      exact ⟨dir.text.toList ++ '/' :: front, by simp [← whole]⟩
    have alone := splitPath_of_not_mem (slash_not_mem_of_nothingLeft split nothing open_)
    rw [alone, List.cons.injEq] at split
    cases ends
    rw [split.1]
    exact ⟨rfl, rfl, rfl, rfl⟩

/-- The names that are given out have no slash in what makes them fresh. -/
theorem slash_not_mem_tag (n : Nat) : '/' ∉ (tag n).toList := by
  rw [tag, String.toList_ofList, List.mem_map]
  rintro ⟨i, -, slash⟩
  rw [List.getD_eq_getElem?_getD] at slash
  cases there : tagCharacters[n / Nat.pow tagCharacters.length i % tagCharacters.length]? with
  | none =>
      rw [there] at slash
      exact absurd slash (by decide)
  | some c =>
      rw [there, Option.getD_some] at slash
      have member := List.mem_of_getElem? there
      rw [slash] at member
      exact absurd member (by decide)

/-! ## What is in the files -/

theorem contents_modifyContents_of_ne {n id : Nat} (other : n ≠ id) (f : Contents → Contents) :
    (t.modifyContents id f).contents n = t.contents n := by
  unfold contents modifyContents
  dsimp only
  generalize t.files = files
  induction files with
  | nil => rfl
  | cons x files ih =>
      obtain ⟨m, c⟩ := x
      rw [List.map_cons, List.lookup_cons]
      by_cases same : m = id
      · subst same
        simp only [beq_self_eq_true, if_true, List.lookup_cons, beq_false_of_ne other]
        exact ih
      · simp only [beq_false_of_ne same, Bool.false_eq_true, if_false, List.lookup_cons]
        cases n == m with
        | true => rfl
        | false => exact ih

theorem contents_modifyContents_of_cons {id : Nat} {c : Contents} {rest : List (Nat × Contents)}
    (files : t.files = (id, c) :: rest) (f : Contents → Contents) :
    (t.modifyContents id f).contents id = f c := by
  simp [contents, modifyContents, files]

end FileTree

end Overseer.Host
