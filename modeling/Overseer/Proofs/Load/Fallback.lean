import Mathlib.Data.List.Count
import Mathlib.Data.List.Nodup
import Mathlib.Data.List.Infix
import Overseer.Load.Sampler
import Overseer.Proofs.Supervision.Programs

/-!
# Which sources a sampler asks

A sampler asks its sources in order and stops at the first value.  Its sources keep a state of their
own: each has a sequence of answers (`Tape`), and a call takes the next one.  So what a source answers in
one round depends on how often it was reached in all rounds before, that is, on the failures of the
sources in front of it.

The state of such a sampler is the list of all calls so far.  `run_sampleLoad` says what one round adds to
it, and `rounds_of_tapes` what is true of all rounds of a run: each of them asks the shortest first part
of the sources that ends in a value (`AsksLeast`).

## Main definitions

* `Tape`, `Member`, `sourceOf` — sources with answers of their own
* `Calls`, `nextAnswer` — the calls so far, and what a source answers behind them
* `asked`, `loadFound` — one round: the sources that are asked, and the load
* `AsksLeast` — a round asks no more than it needs
* `sampleRounds` — rounds one behind the other
-/

namespace Overseer.Load

/-- A source with a sequence of answers: its `k`-th call, counted from 0, takes the `k`-th of them. -/
structure Tape where
  /-- a short name for the log -/
  name : String
  /-- what it answers when it is called -/
  answer : Nat → Except SampleError Nat

/-- A source of a sampler, and its place among the sources. -/
abbrev Member := Tape × Nat

/-- The places of the sources that were called, the first call first. -/
abbrev Calls := List Nat

/-- What a source answers when it is called behind other calls. -/
def nextAnswer (calls : Calls) (m : Member) : Except SampleError Nat := m.1.answer (calls.count m.2)

/-- A tape as a source.  Calling it is noted. -/
def sourceOf (m : Member) : LoadSource Calls where
  name := m.1.name
  sample := fun calls => (nextAnswer calls m, calls ++ [m.2])

/-- The sources that are asked in a round: those up to the first one that has a value. -/
def asked (calls : Calls) : List Member → List Member
  | [] => []
  | m :: rest =>
    match nextAnswer calls m with
    | .ok _ => [m]
    | .error _ => m :: asked calls rest

/-- The load of a round: the first value, or 0 when there is none. -/
def loadFound (calls : Calls) : List Member → Nat
  | [] => 0
  | m :: rest =>
    match nextAnswer calls m with
    | .ok n => n
    | .error _ => loadFound calls rest

/-- The places of some sources. -/
def places (part : List Member) : Calls := part.map Prod.snd

section

variable {calls calls' : Calls} {m : Member} {rest chain : List Member} {n : Nat} {e : SampleError}

theorem asked_of_ok (value : nextAnswer calls m = .ok n) : asked calls (m :: rest) = [m] := by
  rw [asked, value]

theorem asked_of_error (fails : nextAnswer calls m = .error e) :
    asked calls (m :: rest) = m :: asked calls rest := by
  rw [asked, fails]

theorem loadFound_of_ok (value : nextAnswer calls m = .ok n) : loadFound calls (m :: rest) = n := by
  rw [loadFound, value]

theorem loadFound_of_error (fails : nextAnswer calls m = .error e) :
    loadFound calls (m :: rest) = loadFound calls rest := by
  rw [loadFound, fails]

/-- Calls of other sources do not change what a source answers. -/
theorem nextAnswer_append_of_notMem {others : Calls} (other : m.2 ∉ others) :
    nextAnswer (calls ++ others) m = nextAnswer calls m := by
  rw [nextAnswer, List.count_append, List.count_eq_zero_of_not_mem other, Nat.add_zero, nextAnswer]

/-- A round depends on nothing but what its sources answer. -/
theorem asked_congr (same : ∀ m ∈ chain, nextAnswer calls' m = nextAnswer calls m) :
    asked calls' chain = asked calls chain ∧ loadFound calls' chain = loadFound calls chain := by
  induction chain with
  | nil => exact ⟨rfl, rfl⟩
  | cons m rest ih =>
      obtain ⟨here, there⟩ := List.forall_mem_cons.mp same
      obtain ⟨names, load⟩ := ih there
      rw [asked, asked, loadFound, loadFound, here, names, load]
      exact ⟨rfl, rfl⟩

theorem asked_initial (calls : Calls) (chain : List Member) : asked calls chain <+: chain := by
  induction chain with
  | nil => exact List.prefix_rfl
  | cons m rest ih =>
      cases answer : nextAnswer calls m with
      | ok n => rw [asked_of_ok answer]; exact List.prefix_append [m] rest
      | error e => rw [asked_of_error answer]; exact List.prefix_cons_inj m |>.mpr ih

/-! ## One round -/

/-- **The calls of a round.**  The sources that are asked are those up to the first value, each is asked
once and in order, and each gives its next answer. -/
theorem run_ask (distinct : (places chain).Nodup) :
    (ask (chain.map sourceOf)).run calls =
      ((asked calls chain).map fun m => (m.1.name, nextAnswer calls m),
        calls ++ places (asked calls chain)) := by
  induction chain generalizing calls with
  | nil =>
      rw [asked, places, List.map_nil, List.map_nil, List.map_nil, List.append_nil]
      rfl
  | cons m rest ih =>
      obtain ⟨apart, distinct⟩ := List.nodup_cons.mp distinct
      -- The call of `m` is noted, which the sources behind it do not notice.
      have same : ∀ k ∈ rest, nextAnswer (calls ++ [m.2]) k = nextAnswer calls k := by
        intro k member
        refine nextAnswer_append_of_notMem ?_
        rw [List.mem_singleton]
        rintro eq
        exact apart (eq ▸ List.mem_map_of_mem member)
      rw [List.map_cons, ask, run_bind]
      have call : (sourceOf m).sample.run calls = (nextAnswer calls m, calls ++ [m.2]) := rfl
      rw [call]
      cases answer : nextAnswer calls m with
      | ok n =>
          rw [asked_of_ok answer]
          simp only [List.map_cons, List.map_nil, answer, places]
          rfl
      | error e =>
          rw [asked_of_error answer, List.map_cons, answer]
          dsimp only
          rw [run_bind, ih distinct, (asked_congr same).1]
          have names : ∀ k ∈ asked calls rest,
              (k.1.name, nextAnswer (calls ++ [m.2]) k) = (k.1.name, nextAnswer calls k) := by
            intro k member
            rw [same k ((asked_initial calls rest).subset member)]
          rw [List.map_congr_left names]
          rw [places, places, List.map_cons, List.append_assoc]
          rfl

/-- The load is the value of the last source that was asked, if it has one. -/
theorem loadOf_asked (calls : Calls) (chain : List Member) :
    loadOf ((asked calls chain).map fun m => (m.1.name, nextAnswer calls m)) =
      loadFound calls chain := by
  induction chain with
  | nil => rfl
  | cons m rest ih =>
      cases answer : nextAnswer calls m with
      | ok n =>
          rw [asked_of_ok answer, loadFound_of_ok answer]
          simp [loadOf, answer]
      | error e =>
          rw [asked_of_error answer, loadFound_of_error answer, ← ih]
          unfold loadOf
          rw [List.map_cons, List.getLast?_cons, answer]
          cases (List.map (fun m => (m.1.name, nextAnswer calls m)) (asked calls rest)).getLast? <;> rfl

theorem run_sampleLoad (distinct : (places chain).Nodup) :
    (sampleLoad (chain.map sourceOf)).run calls =
      (loadFound calls chain, calls ++ places (asked calls chain)) := by
  rw [sampleLoad, run_bind, run_ask distinct]
  exact congrArg (·, calls ++ places (asked calls chain)) (loadOf_asked calls chain)

/-! ## No more sources than needed -/

/-- The last of some sources has a value. -/
def Finds (calls : Calls) (part : List Member) (load : Nat) : Prop :=
  ∃ m, part.getLast? = some m ∧ nextAnswer calls m = .ok load

/-- Behind some calls, a round asks the shortest first part of the sources that ends in a value, which is
its load; or it asks all of them and has the load 0, if there is no such part. -/
structure AsksLeast (chain : List Member) (calls : Calls) (part : List Member) (load : Nat) : Prop where
  inOrder : part <+: chain
  ends : Finds calls part load ∨
    part = chain ∧ load = 0 ∧ ∀ other n, other <+: chain → ¬Finds calls other n
  least : ∀ other n, other <+: chain → Finds calls other n → part.length ≤ other.length

theorem not_finds_nil : ¬Finds calls [] n := by
  rintro ⟨m, last, -⟩
  cases last

/-- A source that fails may stand in front. -/
theorem finds_cons_iff (fails : nextAnswer calls m = .error e) :
    Finds calls (m :: rest) n ↔ Finds calls rest n := by
  cases rest with
  | nil =>
      refine ⟨?_, fun none => absurd none not_finds_nil⟩
      rintro ⟨last, same, value⟩
      obtain rfl : m = last := Option.some.inj same
      rw [fails] at value
      cases value
  | cons k rest => simp [Finds, List.getLast?_cons_cons]

theorem asksLeast_asked (calls : Calls) (chain : List Member) :
    AsksLeast chain calls (asked calls chain) (loadFound calls chain) := by
  induction chain with
  | nil =>
      refine ⟨List.prefix_rfl, Or.inr ⟨rfl, rfl, fun other n first => ?_⟩, fun other n first => ?_⟩ <;>
        obtain rfl := List.prefix_nil.mp first
      · exact not_finds_nil
      · exact fun none => absurd none not_finds_nil
  | cons m rest ih =>
      refine ⟨asked_initial calls (m :: rest), ?_, ?_⟩
      · cases answer : nextAnswer calls m with
        | ok n =>
            rw [asked_of_ok answer, loadFound_of_ok answer]
            exact Or.inl ⟨m, rfl, answer⟩
        | error e =>
            rw [asked_of_error answer, loadFound_of_error answer]
            rcases ih.ends with found | ⟨all, zero, none⟩
            · exact Or.inl ((finds_cons_iff answer).mpr found)
            · refine Or.inr ⟨congrArg (m :: ·) all, zero, fun other n first found => ?_⟩
              rcases List.prefix_cons_iff.mp first with rfl | ⟨shorter, rfl, short⟩
              · exact not_finds_nil found
              · exact none shorter n short ((finds_cons_iff answer).mp found)
      · intro other n first found
        rcases List.prefix_cons_iff.mp first with rfl | ⟨shorter, rfl, short⟩
        · exact absurd found not_finds_nil
        · cases answer : nextAnswer calls m with
          | ok n => simp [asked_of_ok answer]
          | error e =>
              rw [asked_of_error answer, List.length_cons, List.length_cons]
              exact Nat.succ_le_succ (ih.least shorter n short ((finds_cons_iff answer).mp found))

/-- **A source that fails does not count.**  A round in which some of the sources that fail are missing
asks the others, and finds the same load. -/
theorem asked_filter {keep : Member → Bool}
    (same : ∀ m ∈ chain, keep m = true → nextAnswer calls' m = nextAnswer calls m)
    (fails : ∀ m ∈ asked calls chain, keep m = false → ∃ e, nextAnswer calls m = .error e) :
    asked calls' (chain.filter keep) = (asked calls chain).filter keep ∧
      loadFound calls' (chain.filter keep) = loadFound calls chain := by
  induction chain with
  | nil => exact ⟨rfl, rfl⟩
  | cons m rest ih =>
      obtain ⟨here, there⟩ := List.forall_mem_cons.mp same
      cases answer : nextAnswer calls m with
      | ok n =>
          rw [asked_of_ok answer] at fails ⊢
          have kept : keep m = true := by
            by_contra dropped
            obtain ⟨e, fails⟩ := fails m (List.mem_singleton_self m) (Bool.not_eq_true _ ▸ dropped)
            rw [answer] at fails
            cases fails
          have answer' := (here kept).trans answer
          rw [List.filter_cons_of_pos kept, List.filter_cons_of_pos kept, asked_of_ok answer',
            loadFound_of_ok answer', loadFound_of_ok answer]
          exact ⟨rfl, rfl⟩
      | error e =>
          rw [asked_of_error answer] at fails ⊢
          obtain ⟨names, load⟩ := ih there (List.forall_mem_cons.mp fails).2
          rw [loadFound_of_error answer]
          cases kept : keep m with
          | true =>
              have answer' := (here kept).trans answer
              rw [List.filter_cons_of_pos kept, List.filter_cons_of_pos kept, asked_of_error answer',
                loadFound_of_error answer', names]
              exact ⟨rfl, load⟩
          | false =>
              have dropped : ¬keep m = true := by simp [kept]
              rw [List.filter_cons_of_neg dropped, List.filter_cons_of_neg dropped]
              exact ⟨names, load⟩

end

/-! ## All rounds of a run -/

/-- So many rounds one behind the other, and their loads. -/
def sampleRounds {σ : Type} (sources : List (LoadSource σ)) : Nat → StateM σ (List Nat)
  | 0 => pure []
  | n + 1 => do
    let load ← sampleLoad sources
    let later ← sampleRounds sources n
    pure (load :: later)

/-- The rounds behind some calls: the sources that each of them asks, and its load. -/
def roundsFrom (chain : List Member) : Calls → Nat → List (List Member × Nat)
  | _, 0 => []
  | calls, n + 1 =>
    (asked calls chain, loadFound calls chain) ::
      roundsFrom chain (calls ++ places (asked calls chain)) n

/-- The calls of some rounds. -/
def callsOf (rounds : List (List Member × Nat)) : Calls := rounds.flatMap fun round => places round.1

section

variable {chain : List Member} {keep : Member → Bool} {calls calls' : Calls}

theorem callsOf_cons (round : List Member × Nat) (rounds : List (List Member × Nat)) :
    callsOf (round :: rounds) = places round.1 ++ callsOf rounds :=
  List.flatMap_cons

theorem length_roundsFrom (chain : List Member) (calls : Calls) (n : Nat) :
    (roundsFrom chain calls n).length = n := by
  induction n generalizing calls with
  | zero => rfl
  | succ n ih => rw [roundsFrom, List.length_cons, ih]

theorem run_sampleRounds (distinct : (places chain).Nodup) (calls : Calls) (n : Nat) :
    (sampleRounds (chain.map sourceOf) n).run calls =
      ((roundsFrom chain calls n).map Prod.snd, calls ++ callsOf (roundsFrom chain calls n)) := by
  induction n generalizing calls with
  | zero =>
      rw [roundsFrom, callsOf, List.flatMap_nil, List.append_nil]
      rfl
  | succ n ih =>
      rw [sampleRounds, run_bind, run_sampleLoad distinct]
      dsimp only
      rw [run_bind, ih, roundsFrom, callsOf_cons, ← List.append_assoc]
      rfl

/-- Every round is one behind the calls of those before it. -/
theorem round_eq {n : Nat} {round : List Member × Nat} {front back : List (List Member × Nat)}
    (cut : roundsFrom chain calls n = front ++ round :: back) :
    round = (asked (calls ++ callsOf front) chain, loadFound (calls ++ callsOf front) chain) := by
  induction front generalizing calls n with
  | nil =>
      cases n with
      | zero => cases cut
      | succ n =>
          rw [callsOf, List.flatMap_nil, List.append_nil]
          exact (List.cons.inj cut).1.symm
  | cons first front ih =>
      cases n with
      | zero => cases cut
      | succ n =>
          obtain ⟨rfl, later⟩ := List.cons.inj cut
          rw [callsOf_cons, ← List.append_assoc]
          exact ih later

theorem prefix_of_mem_roundsFrom {n : Nat} {round : List Member × Nat}
    (member : round ∈ roundsFrom chain calls n) : round.1 <+: chain := by
  obtain ⟨front, back, cut⟩ := List.append_of_mem member
  rw [round_eq cut]
  exact asked_initial _ chain

/-! ## How often each source is asked -/

theorem places_zipIdx (tapes : List Tape) : places tapes.zipIdx = List.range tapes.length := by
  rw [places, List.zipIdx_map_snd, List.range_eq_range']

theorem distinct_zipIdx (tapes : List Tape) : (places tapes.zipIdx).Nodup := by
  rw [places_zipIdx]
  exact List.nodup_range

/-- A first part of the sources has the first places. -/
theorem places_eq_range {tapes : List Tape} {part : List Member} (first : part <+: tapes.zipIdx) :
    places part = List.range part.length := by
  have start : places part <+: List.range tapes.length := by
    rw [← places_zipIdx]
    exact first.map Prod.snd
  have short : part.length ≤ tapes.length := by simpa using first.length_le
  rw [List.prefix_iff_eq_take.mp start, List.take_range, places, List.length_map, Nat.min_eq_left short]

/-- Rounds that ask in order ask no source more often than the one before it. -/
theorem count_succ_callsOf_le {tapes : List Tape} {rounds : List (List Member × Nat)}
    (inOrder : ∀ round ∈ rounds, round.1 <+: tapes.zipIdx) (i : Nat) :
    (callsOf rounds).count (i + 1) ≤ (callsOf rounds).count i := by
  induction rounds with
  | nil => exact Nat.le_refl _
  | cons round rounds ih =>
      obtain ⟨here, there⟩ := List.forall_mem_cons.mp inOrder
      have one : (places round.1).count (i + 1) ≤ (places round.1).count i := by
        rw [places_eq_range here, List.count_range, List.count_range]
        split <;> split <;> omega
      rw [callsOf_cons, List.count_append, List.count_append]
      exact Nat.add_le_add one (ih there)

/-! ## Sources that fail in a whole run -/

variable {m : Member} {part : List Member} {n : Nat}

theorem mem_places_iff (distinct : (places chain).Nodup) (among : part.Sublist chain) (member : m ∈ chain) :
    m.2 ∈ places part ↔ m ∈ part := by
  refine ⟨fun place => ?_, fun here => List.mem_map_of_mem here⟩
  obtain ⟨k, here, same⟩ := List.mem_map.mp place
  rwa [← List.inj_on_of_nodup_map distinct (among.subset here) member same]

/-- The sources that are kept are called as often, whether the others are there or not. -/
theorem count_places_filter (distinct : (places chain).Nodup) (among : part.Sublist chain)
    (member : m ∈ chain) (kept : keep m = true) :
    (places (part.filter keep)).count m.2 = (places part).count m.2 := by
  have fewer : (part.filter keep).Sublist chain := List.filter_sublist.trans among
  have nodup {part : List Member} (among : part.Sublist chain) : (places part).Nodup :=
    distinct.sublist (among.map Prod.snd)
  have same : m.2 ∈ places (part.filter keep) ↔ m.2 ∈ places part := by
    rw [mem_places_iff distinct fewer member, mem_places_iff distinct among member, List.mem_filter]
    exact and_iff_left kept
  rw [(nodup fewer).count, (nodup among).count]
  simp only [same]

/-- Sources may be left out of a run in which all their calls fail: the loads stay the same. -/
theorem loads_filter (distinct : (places chain).Nodup)
    (same : ∀ m ∈ chain, keep m = true → calls'.count m.2 = calls.count m.2)
    (fails : ∀ m ∈ chain, keep m = false → ∀ k, calls.count m.2 ≤ k →
      k < (calls ++ callsOf (roundsFrom chain calls n)).count m.2 → ∃ e, m.1.answer k = .error e) :
    (roundsFrom (chain.filter keep) calls' n).map Prod.snd =
      (roundsFrom chain calls n).map Prod.snd := by
  induction n generalizing calls calls' with
  | zero => rfl
  | succ n ih =>
      have among := (asked_initial calls chain).sublist
      rw [roundsFrom, callsOf_cons, ← List.append_assoc] at fails
      dsimp only at fails
      have answers : ∀ m ∈ chain, keep m = true → nextAnswer calls' m = nextAnswer calls m := by
        intro m member kept
        rw [nextAnswer, same m member kept, nextAnswer]
      -- A source that is asked in this round makes a call of the run.
      have failsNow : ∀ m ∈ asked calls chain, keep m = false →
          ∃ e, nextAnswer calls m = .error e := by
        intro m here dropped
        have member := among.subset here
        refine fails m member dropped _ (Nat.le_refl _) ?_
        have once : 0 < (places (asked calls chain)).count m.2 :=
          List.count_pos_iff.mpr ((mem_places_iff distinct among member).mpr here)
        rw [List.count_append, List.count_append]
        omega
      obtain ⟨names, load⟩ := asked_filter answers failsNow
      rw [roundsFrom, roundsFrom, List.map_cons, List.map_cons, names, load]
      refine congrArg (loadFound calls chain :: ·) (ih ?_ ?_)
      · intro m member kept
        rw [List.count_append, List.count_append, same m member kept,
          count_places_filter distinct among member kept]
      · intro m member dropped k from_ below
        refine fails m member dropped k (Nat.le_trans ?_ from_) below
        rw [List.count_append]
        exact Nat.le_add_right _ _

end

/-- **The rounds of a sampler.**  For all sources with answers of their own and for every number of rounds:
each round asks the shortest first part of the sources that ends in a value, and its load is that value,
or 0 if there is none.  A source that fails in a round might as well be missing in it.

So in the whole run no source is asked more often than the one before it, and sources that fail whenever
they are asked might as well be missing in all of it. -/
theorem rounds_of_tapes (tapes : List Tape) (n : Nat) :
    ∃ rounds : List (List Member × Nat), rounds.length = n ∧
      (sampleRounds (tapes.zipIdx.map sourceOf) n).run [] = (rounds.map Prod.snd, callsOf rounds) ∧
      (∀ front round back, rounds = front ++ round :: back →
        AsksLeast tapes.zipIdx (callsOf front) round.1 round.2 ∧
        ∀ keep : Member → Bool,
          (∀ m ∈ tapes.zipIdx, keep m = false → ∃ e, nextAnswer (callsOf front) m = .error e) →
          ((sampleLoad ((tapes.zipIdx.filter keep).map sourceOf)).run (callsOf front)).1 = round.2) ∧
      (∀ i, (callsOf rounds).count (i + 1) ≤ (callsOf rounds).count i) ∧
      ∀ keep : Member → Bool,
        (∀ m ∈ tapes.zipIdx, keep m = false →
          ∀ k < (callsOf rounds).count m.2, ∃ e, m.1.answer k = .error e) →
        ((sampleRounds ((tapes.zipIdx.filter keep).map sourceOf) n).run []).1 =
          rounds.map Prod.snd := by
  have distinct := distinct_zipIdx tapes
  have fewer (keep : Member → Bool) : (places (tapes.zipIdx.filter keep)).Nodup :=
    distinct.sublist (List.filter_sublist.map _)
  refine ⟨roundsFrom tapes.zipIdx [] n, length_roundsFrom _ _ _, run_sampleRounds distinct [] n,
    fun front round back cut => ?_,
    count_succ_callsOf_le fun _ member => prefix_of_mem_roundsFrom member, fun keep fails => ?_⟩
  · obtain rfl := round_eq cut
    refine ⟨asksLeast_asked _ _, fun keep fails => ?_⟩
    rw [run_sampleLoad (fewer keep)]
    refine (asked_filter (fun _ _ _ => rfl) fun m here dropped => ?_).2
    exact fails m ((asked_initial _ _).subset here) dropped
  · rw [run_sampleRounds (fewer keep)]
    refine loads_filter distinct (fun _ _ _ => rfl) fun m member dropped k _ below => ?_
    exact fails m member dropped k below

/-- A source that has a value at every second call. -/
def flaky : Tape where
  name := "flaky"
  answer k := if k % 2 = 0 then .error .sentinel else .ok 12

/-- A source that always has the same value. -/
def steady : Tape where
  name := "steady"
  answer _ := .ok 37

/-- In the first of two rounds the first source fails, and leaving it out changes nothing. -/
theorem rounds_of_flaky :
    ∃ part, AsksLeast [flaky, steady].zipIdx [] part 37 ∧
      ((sampleRounds ([flaky, steady].zipIdx.map sourceOf) 2).run []).1 = [37, 12] ∧
      ((sampleLoad (([flaky, steady].zipIdx.filter (·.2 != 0)).map sourceOf)).run []).1 = 37 := by
  have loads : ((sampleRounds ([flaky, steady].zipIdx.map sourceOf) 2).run []).1 = [37, 12] := rfl
  obtain ⟨rounds, -, ran, each, -, -⟩ := rounds_of_tapes [flaky, steady] 2
  rw [ran] at loads
  obtain ⟨⟨part, _⟩, back, rfl, rfl, -⟩ := List.map_eq_cons_iff.mp loads
  obtain ⟨least, without⟩ := each [] _ back rfl
  refine ⟨part, least, congrArg Prod.fst ran |>.trans loads, without _ fun m member dropped => ?_⟩
  have one : m = (flaky, 0) ∨ m = (steady, 1) := by simpa using member
  rcases one with rfl | rfl
  · exact ⟨.sentinel, rfl⟩
  · cases dropped

end Overseer.Load
