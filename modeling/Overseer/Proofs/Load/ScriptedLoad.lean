import Overseer.Load.Sampler
import Overseer.Proofs.Script.Outcomes
import Overseer.Proofs.Script.Truncation
import Overseer.Proofs.Text.Numerals
import Overseer.Proofs.Text.Trimming

/-!
# What a sampling script has to print

A load comes from a script in two stages: the script has to run cleanly, and what it printed has to be a
number.  `Printed` is the first stage, said in terms of what happened in the run, and `Denotes` and
`Padded` are the second, said without the reader of numbers.

`sampled_of_run` puts them together: it says for every run which of the four things a source answers, a
load, the sentinel's error, the error of a text that is no load, or the error of the run.
-/

namespace Overseer.Load

open Overseer.Script Overseer.Text Overseer.Time

/-! ## Reading what was printed -/

section

variable {output left : String} {n : Nat} {e : ScriptError}

theorem trim_eq_self_of_denotes {core : String} (denotes : Denotes core n) : trim core = core := by
  have plain : ∀ c ∈ core.toList, isBlank c = false := fun c member =>
    not_blank_of_mem_of_denotes denotes member
  rw [← String.toList_inj, toList_trim, trimChars]
  have start : core.toList.dropWhile isBlank = core.toList := by
    rw [List.dropWhile_eq_self_iff]
    intro some
    rw [plain _ (List.getElem_mem some)]
    decide
  rw [start]
  exact trimEndChars_eq_self fun c last => plain c (List.mem_of_getLast? last)

theorem trim_failureSentinel : trim failureSentinel = failureSentinel := by
  rw [← String.toList_inj, toList_trim]
  simp only [failureSentinel, String.reduceToList]
  rfl

/-- The sentinel is no number. -/
theorem not_denotes_failureSentinel : ¬Denotes failureSentinel n := by
  intro denotes
  have read := unsignedChars?_eq_some_iff.mpr denotes
  simp only [failureSentinel, String.reduceToList] at read
  revert read
  simp [unsignedChars?, digits?, digitsFrom?, digit?]

/-- A load is a number below the bound between blank characters. -/
theorem parseLoad_eq_ok_iff :
    parseLoad output = .ok n ↔ ∃ core, Padded core output ∧ Denotes core n ∧ n < loadBound := by
  have core : (∃ core, Padded core output ∧ Denotes core n ∧ n < loadBound) ↔
      Denotes (trim output) n ∧ n < loadBound := by
    constructor
    · rintro ⟨core, pads, denotes, small⟩
      rw [trim_of_padded pads, trim_eq_self_of_denotes denotes]
      exact ⟨denotes, small⟩
    · rintro ⟨denotes, small⟩
      exact ⟨trim output, padded_trim output, denotes, small⟩
  rw [core, ← unsigned?_eq_some_iff, parseLoad]
  split
  · next sentinel =>
    refine ⟨nofun, fun read => ?_⟩
    rw [sentinel, unsigned?_eq_some_iff] at read
    exact absurd read.1 not_denotes_failureSentinel
  · split
    · next read => rw [read, Except.ok.injEq, Option.some.injEq]
    · next unread => simp [unread]

theorem parseLoad_eq_sentinel_iff : parseLoad output = .error .sentinel ↔ Padded failureSentinel output := by
  have core : Padded failureSentinel output ↔ trim output = failureSentinel := by
    constructor
    · intro pads
      rw [trim_of_padded pads, trim_failureSentinel]
    · intro sentinel
      rw [← sentinel]
      exact padded_trim output
  rw [core, parseLoad]
  split
  · next sentinel => simp [sentinel]
  · next other => split <;> simp [other]

/-- Every other text is blamed for being no load, without the blank characters around it. -/
theorem parseLoad_eq_parse_iff :
    parseLoad output = .error (.parse left) ↔
      trim output = left ∧ ¬Padded failureSentinel output ∧
        ∀ n core, Padded core output → Denotes core n → loadBound ≤ n := by
  have refused : (∀ n core, Padded core output → Denotes core n → loadBound ≤ n) ↔
      ∀ n, parseLoad output ≠ .ok n := by
    refine forall_congr' fun n => ?_
    rw [Ne, parseLoad_eq_ok_iff]
    simp only [not_exists, not_and, Nat.not_lt]
  rw [refused, ← parseLoad_eq_sentinel_iff, parseLoad]
  split
  · simp
  · split <;> simp

theorem parseLoad_ne_script : parseLoad output ≠ .error (.script e) := by
  rw [parseLoad]
  split
  · nofun
  · split <;> nofun

end

/-! ## Running the script -/

section

variable {σ : Type} (call : ScriptCall σ)

/-- A clean run, and what it printed: the script was written and the interpreter was started on it; before
the deadline, and with no more looks than a watch may make, it ended with code 0 and nothing more came from its
streams; and nothing had come from its standard error output. -/
def Printed (text : String) : Prop :=
  ∃ start child deadline seen state, call.Saw start child deadline seen state ∧
    seen.length ≤ collectBound ∧ concluded seen = true ∧ outcome? seen = some (.ok (.code 0)) ∧
    brought .stderr seen = [] ∧ said .stdout seen = text

/-- The call that a source makes: its script has no arguments. -/
def withoutArguments : ScriptCall σ := { call with args := [] }

/-- What a source answers that runs the script of a call. -/
def sampled : Except SampleError Nat :=
  ((scriptSource call.faults call.platform call.runner call.source call.timeoutSecs).sample.run
    (call.files, call.rest)).1

variable {call} {text : String} {n : Nat} {e : ScriptError}

/-- Only a clean run has a result, which is what it printed. -/
theorem after_eq_ok_iff_printed : call.after.1 = .ok text ↔ Printed call text :=
  ScriptCall.after_eq_ok_iff

theorem exists_after_eq_error_iff :
    (∃ e, call.after.1 = .error e) ↔ ¬∃ text, Printed call text := by
  simp only [← after_eq_ok_iff_printed]
  cases call.after.1 <;> simp

/-- A source hands on the error of its run, and reads what a clean one printed. -/
theorem sampled_eq :
    sampled call = match (withoutArguments call).after.1 with
      | .error e => .error (.script e)
      | .ok output => parseLoad output := by
  unfold sampled scriptSource
  dsimp only
  rw [run_bind]
  have ran : (call.runner.run call.faults call.platform call.source call.timeoutSecs []).run
      (call.files, call.rest) = (withoutArguments call).after := rfl
  rw [ran]
  cases (withoutArguments call).after.1 <;> rfl

/-- What is made of the output of a clean run is made of its text. -/
theorem sampled_eq_iff_of_reading {answer : Except SampleError Nat}
    (reading : ∀ e, answer ≠ .error (.script e)) :
    sampled call = answer ↔
      ∃ text, Printed (withoutArguments call) text ∧ parseLoad text = answer := by
  rw [sampled_eq]
  simp only [← after_eq_ok_iff_printed]
  cases (withoutArguments call).after.1 with
  | error e => simpa using Ne.symm (reading e)
  | ok output => simp

theorem sampled_eq_script_iff :
    sampled call = .error (.script e) ↔ (withoutArguments call).after.1 = .error e := by
  rw [sampled_eq]
  cases (withoutArguments call).after.1 with
  | error e' => simp
  | ok output => simpa using parseLoad_ne_script

end

/-- **What a scripted load is.**  For every run of the script, on every system and whatever fails:

* a load is answered exactly if the run was clean and printed a number of 32 bits, with blank characters
  around it or not; so the decimal text of such a number is read back, however it is padded;
* the error of the sentinel exactly if a clean run printed the sentinel, padded or not;
* every other clean run has its trimmed text for an error;
* and a run that was not clean has the error of the run. -/
theorem sampled_of_run {σ : Type} (call : ScriptCall σ) :
    (∀ n, sampled call = .ok n ↔ ∃ text core, Printed (withoutArguments call) text ∧
      Padded core text ∧ Denotes core n ∧ n < 2 ^ 32) ∧
    (∀ n text, n < 2 ^ 32 → Padded (naturalText n) text → Printed (withoutArguments call) text →
      sampled call = .ok n) ∧
    (sampled call = .error .sentinel ↔
      ∃ text, Printed (withoutArguments call) text ∧ Padded "pyerror" text) ∧
    (∀ left, sampled call = .error (.parse left) ↔
      ∃ text, Printed (withoutArguments call) text ∧ trim text = left ∧ ¬Padded "pyerror" text ∧
        ∀ n core, Padded core text → Denotes core n → 2 ^ 32 ≤ n) ∧
    (∀ e, sampled call = .error (.script e) ↔ (withoutArguments call).after.1 = .error e) ∧
    ((∃ e, (withoutArguments call).after.1 = .error e) ↔
      ¬∃ text, Printed (withoutArguments call) text) := by
  have accepted (n : Nat) : sampled call = .ok n ↔ ∃ text core,
      Printed (withoutArguments call) text ∧ Padded core text ∧ Denotes core n ∧ n < 2 ^ 32 := by
    refine (sampled_eq_iff_of_reading (by simp)).trans (exists_congr fun text => ?_)
    rw [parseLoad_eq_ok_iff, exists_and_left]
    rfl
  refine ⟨accepted, fun n text small pads printed => ?_, ?_, fun left => ?_,
    fun e => sampled_eq_script_iff, exists_after_eq_error_iff⟩
  · exact (accepted n).mpr ⟨text, naturalText n, printed, pads, denotes_naturalText n, small⟩
  · refine (sampled_eq_iff_of_reading (by simp)).trans (exists_congr fun text => ?_)
    rw [parseLoad_eq_sentinel_iff]
    rfl
  · refine (sampled_eq_iff_of_reading (by simp)).trans (exists_congr fun text => ?_)
    rw [parseLoad_eq_parse_iff]
    rfl

/-- A sampling script that prints the given bytes. -/
def printing (bytes : List UInt8) : ScriptCall Writer := { greeting with rest := { unwritten := bytes } }

theorem writes_printing (bytes : List UInt8) : (printing bytes).Writes .stdout bytes 65536 := by
  obtain ⟨time, script, files, written, -⟩ := writes_greeting
  have positive : 0 < (Duration.ofSecs 5).nanoseconds := by decide
  exact ⟨time, script, files, written,
    writesInTime_hosting files _ positive .stdout bytes (by decide)⟩

/-- What is printed within the bound is what a clean run printed. -/
theorem printed_printing (bytes : List UInt8) (within : bytes.length ≤ Capture.maxOutputBytes) :
    Printed (withoutArguments (printing bytes)) (truncated bytes) := by
  obtain ⟨code, reported, result⟩ := ScriptCall.after_of_writes (writes_printing bytes)
  rw [if_pos (reported.whole within)] at result
  exact after_eq_ok_iff_printed.mp result

/-- A number between a no-break space and a line end is read back. -/
theorem sampled_of_padded :
    ∃ text, Padded (naturalText 42) text ∧
      Printed (withoutArguments (printing [0xc2, 0xa0, 52, 50, 10])) text ∧
      sampled (printing [0xc2, 0xa0, 52, 50, 10]) = .ok 42 := by
  have text : truncated [0xc2, 0xa0, 52, 50, 10] = "\u00a042\n" := by decide
  have pads : Padded (naturalText 42) "\u00a042\n" :=
    ⟨['\u00a0'], ['\n'], List.forall_mem_singleton.mpr (by decide),
      List.forall_mem_singleton.mpr (by decide), by decide⟩
  have printed := printed_printing [0xc2, 0xa0, 52, 50, 10] (by decide)
  rw [text] at printed
  exact ⟨_, pads, printed, (sampled_of_run _).2.1 42 _ (by decide) pads printed⟩

end Overseer.Load
