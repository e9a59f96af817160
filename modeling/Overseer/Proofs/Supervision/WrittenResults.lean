import Overseer.Proofs.Json.Reading
import Overseer.Proofs.Time.WrittenTimes
import Overseer.Supervision.Result

/-!
# Results are read back from their JSON

`ExecutionResult.read?` takes a text for JSON and looks the fields of a result up by their names.  It knows
nothing of how a result is written: the fields may stand in any order, with others between them, and the text
may be spaced and escaped in any way that JSON allows.  A number out of the range of its field is refused, and
so is a field that is missing or stands there twice.

A result is read back from its compact text, whatever else it holds, if the program did not start in a leap
second that is out of its place (`result_read_back`).  Such a start is written as the second behind it, and the
result shares its text with another (`misplaced_leap_second_lost`).
-/

namespace Overseer.Json.Value

variable {α : Type}

/-! ## Looking into values -/

/-- The names of the fields of an object, in their order. -/
def names : Value → List String
  | object fields => fields.map Prod.fst
  | _ => []

/-- The value of the only field with the given name. -/
def field? (name : String) : Value → Option Value
  | object fields =>
      match fields.filter (·.1 = name) with
      | [f] => some f.2
      | _ => none
  | _ => none

/-- A boolean. -/
def bool? : Value → Option Bool
  | bool b => some b
  | _ => none

/-- A string. -/
def string? : Value → Option String
  | string s => some s
  | _ => none

/-- An integer from `low` on and below `high`. -/
def integer? (low high : Int) : Value → Option Int
  | integer n => if low ≤ n ∧ n < high then some n else none
  | _ => none

/-- An optional value, which `null` says is missing. -/
def option? (value? : Value → Option α) : Value → Option (Option α)
  | null => some none
  | v => (value? v).map some

/-- An unsigned integer of 32 bits. -/
def uint32? (v : Value) : Option UInt32 := (v.integer? 0 (2 ^ 32)).map fun n => UInt32.ofNat n.toNat

/-- A signed integer of 32 bits. -/
def int32? (v : Value) : Option Int32 := (v.integer? (-2 ^ 31) (2 ^ 31)).map Int32.ofInt

/-- An unsigned integer of 64 bits. -/
def uint64? (v : Value) : Option UInt64 := (v.integer? 0 (2 ^ 64)).map fun n => UInt64.ofNat n.toNat

theorem uint32?_toNat (n : UInt32) : uint32? (integer n.toNat) = some n := by
  have := n.toNat_lt
  rw [uint32?, integer?, if_pos (by omega), Option.map_some, Int.toNat_natCast, UInt32.ofNat_toNat]

theorem uint64?_toNat (n : UInt64) : uint64? (integer n.toNat) = some n := by
  have := n.toNat_lt
  rw [uint64?, integer?, if_pos (by omega), Option.map_some, Int.toNat_natCast, UInt64.ofNat_toNat]

theorem int32?_toInt (n : Int32) : int32? (integer n.toInt) = some n := by
  rw [int32?, integer?, if_pos ⟨n.le_toInt, n.toInt_lt⟩, Option.map_some, Int32.ofInt_toInt]

/-- An optional value is told from a missing one if `null` is not how a value is written. -/
theorem option?_ofOption {value? : Value → Option α} {write : α → Value} (null : value? null = none)
    (read : ∀ a, value? (write a) = some a) (a : Option α) :
    option? value? (ofOption write a) = some a := by
  cases a with
  | none => rfl
  | some a =>
      have value : write a ≠ .null := fun missing => by simpa [missing, null] using read a
      rw [ofOption, option?.eq_2 _ _ value, read, Option.map_some]

end Overseer.Json.Value

namespace Overseer

open Json Time

/-! ## Readers -/

/-- The status that a JSON value stands for. -/
def ExecStatus.ofJson? (v : Value) : Option ExecStatus := do
  let pid ← v.field? "pid" >>= Value.option? Value.uint32?
  let exitCode ← v.field? "exit_code" >>= Value.option? Value.int32?
  let signal ← v.field? "signal" >>= Value.option? Value.int32?
  let complete ← v.field? "complete" >>= Value.bool?
  let timedOut ← v.field? "timed_out" >>= Value.bool?
  let startedAt ← v.field? "started_at" >>= Value.string? >>= Timestamp.read?
  let runtimeMs ← v.field? "runtime_ms" >>= Value.uint64?
  some { pid, exitCode, signal, complete, timedOut, startedAt, runtimeMs }

/-- The result that a JSON value stands for. -/
def ExecutionResult.ofJson? (v : Value) : Option ExecutionResult := do
  let status ← v.field? "status" >>= ExecStatus.ofJson?
  let stdout ← v.field? "stdout" >>= Value.string?
  let stderr ← v.field? "stderr" >>= Value.string?
  some { status, stdout, stderr }

/-- Reads a result from its JSON. -/
def ExecutionResult.read? (text : String) : Option ExecutionResult := Value.read? text >>= ofJson?

/-- The status that a written status stands for: its start is carried over to the next second if it was in a
leap second out of its place. -/
def ExecStatus.settled (s : ExecStatus) : ExecStatus := { s with startedAt := s.startedAt.settled }

/-- The result that a written result stands for. -/
def ExecutionResult.settled (r : ExecutionResult) : ExecutionResult := { r with status := r.status.settled }

theorem ExecutionResult.settled_eq_self_iff {r : ExecutionResult} :
    r.settled = r ↔ r.status.startedAt.LeapInPlace := by
  rw [← Timestamp.settled_eq_self_iff]
  constructor
  · exact fun same => congrArg (fun r => r.status.startedAt) same
  · exact fun same => by rw [settled, ExecStatus.settled, same]

/-! ## What is written is read -/

theorem ExecStatus.toJson_settled (s : ExecStatus) : s.settled.toJson = s.toJson := by
  simp only [toJson, settled, Timestamp.format_settled]

theorem ExecutionResult.toJson_settled (r : ExecutionResult) : r.settled.toJson = r.toJson := by
  simp only [toJson, settled, ExecStatus.toJson_settled]

theorem ExecStatus.ofJson?_toJson (s : ExecStatus) : ofJson? s.toJson = some s.settled := by
  have pid : s.toJson.field? "pid" >>= Value.option? Value.uint32? = some s.pid :=
    Option.bind_eq_some_iff.mpr ⟨_, rfl, Value.option?_ofOption rfl Value.uint32?_toNat s.pid⟩
  have exitCode : s.toJson.field? "exit_code" >>= Value.option? Value.int32? = some s.exitCode :=
    Option.bind_eq_some_iff.mpr ⟨_, rfl, Value.option?_ofOption rfl Value.int32?_toInt s.exitCode⟩
  have signal : s.toJson.field? "signal" >>= Value.option? Value.int32? = some s.signal :=
    Option.bind_eq_some_iff.mpr ⟨_, rfl, Value.option?_ofOption rfl Value.int32?_toInt s.signal⟩
  have complete : s.toJson.field? "complete" >>= Value.bool? = some s.complete := rfl
  have timedOut : s.toJson.field? "timed_out" >>= Value.bool? = some s.timedOut := rfl
  have startedAt : s.toJson.field? "started_at" >>= Value.string? >>= Timestamp.read? =
      some s.startedAt.settled :=
    Option.bind_eq_some_iff.mpr ⟨_, rfl, read?_format s.startedAt⟩
  have runtimeMs : s.toJson.field? "runtime_ms" >>= Value.uint64? = some s.runtimeMs :=
    Option.bind_eq_some_iff.mpr ⟨_, rfl, Value.uint64?_toNat s.runtimeMs⟩
  rw [ofJson?, pid, exitCode, signal, complete, timedOut, startedAt, runtimeMs]
  rfl

theorem ExecutionResult.ofJson?_toJson (r : ExecutionResult) : ofJson? r.toJson = some r.settled := by
  have status : r.toJson.field? "status" = some r.status.toJson := rfl
  have stdout : r.toJson.field? "stdout" = some (.string r.stdout) := rfl
  have stderr : r.toJson.field? "stderr" = some (.string r.stderr) := rfl
  simp only [ofJson?, status, stdout, stderr, Option.bind_eq_bind, Option.bind_some,
    ExecStatus.ofJson?_toJson, Value.string?]
  rfl

theorem ExecutionResult.read?_render (r : ExecutionResult) : read? r.toJson.render = some r.settled := by
  rw [read?, Json.read?_render, Option.bind_eq_bind, Option.bind_some, ofJson?_toJson]

/-- An absent option is written as `null`, and one that is there is not. -/
theorem ofOption_eq_null_iff {α : Type} {write : α → Value} (a : Option α) (value : ∀ a, write a ≠ .null) :
    Value.ofOption write a = .null ↔ a = none := by
  cases a with
  | none => simp [Value.ofOption]
  | some a => simp [Value.ofOption, value a]

/-- **What the JSON of a result keeps.**  Its text is JSON and spells one value, an object with the fields of a
result, its status an object with the fields of a status.  An option that is missing is `null` there, and only
such a one.  If the start is in no leap second, or in one behind the end of a minute, the result is read back
from the text, and no other such result has the same text.  For any other start what is read is another result,
which has the same text.

Nothing else is asked of the result: the options may be there in any combination, the start may lie in any
year, and the captured texts may hold any characters. -/
theorem result_read_back (r : ExecutionResult) :
    (∀ v rest, Spells (.value v) r.toJson.render.toList rest ↔ v = r.toJson ∧ rest = []) ∧
      r.toJson.names = ["status", "stdout", "stderr"] ∧
      r.status.toJson.names =
        ["pid", "exit_code", "signal", "complete", "timed_out", "started_at", "runtime_ms"] ∧
      r.toJson.field? "status" = some r.status.toJson ∧
      ((r.status.toJson.field? "pid" = some .null ↔ r.status.pid = none) ∧
        (r.status.toJson.field? "exit_code" = some .null ↔ r.status.exitCode = none) ∧
        (r.status.toJson.field? "signal" = some .null ↔ r.status.signal = none)) ∧
      (r.status.startedAt.LeapInPlace →
        ExecutionResult.read? r.toJson.render = some r ∧
          ∀ other : ExecutionResult, other.status.startedAt.LeapInPlace →
            other.toJson.render = r.toJson.render → other = r) ∧
      (¬ r.status.startedAt.LeapInPlace →
        ExecutionResult.read? r.toJson.render = some r.settled ∧
          r.settled ≠ r ∧ r.settled.toJson.render = r.toJson.render) := by
  refine ⟨fun v rest => spells_render_iff, rfl, rfl, rfl, ⟨?_, ?_, ?_⟩, fun inPlace => ?_, fun outside => ?_⟩
  · exact Option.some_inj.trans (ofOption_eq_null_iff r.status.pid nofun)
  · exact Option.some_inj.trans (ofOption_eq_null_iff r.status.exitCode nofun)
  · exact Option.some_inj.trans (ofOption_eq_null_iff r.status.signal nofun)
  · have back : ExecutionResult.read? r.toJson.render = some r := by
      rw [r.read?_render, ExecutionResult.settled_eq_self_iff.mpr inPlace]
    refine ⟨back, fun other otherInPlace same => ?_⟩
    have there := other.read?_render
    rw [same, back, ExecutionResult.settled_eq_self_iff.mpr otherInPlace] at there
    exact (Option.some.inj there).symm
  · refine ⟨r.read?_render, fun same => ?_, by rw [r.toJson_settled]⟩
    exact outside (ExecutionResult.settled_eq_self_iff.mp same)

/-- The result of a silent program that started at the given time. -/
def silentSince (startedAt : Timestamp) : ExecutionResult where
  status :=
    { pid := some 7, exitCode := some 0, signal := none, complete := true, timedOut := false, startedAt,
      runtimeMs := 5 }
  stdout := ""
  stderr := ""

/-- Half a second into the leap second at the end of 2016 comes back from the text. -/
theorem leap_second_read_back :
    ExecutionResult.read? (silentSince { secs := 1483228799, nanos := 1500000000 }).toJson.render =
      some (silentSince { secs := 1483228799, nanos := 1500000000 }) :=
  ((result_read_back _).2.2.2.2.2.1 (by decide)).1

/-- A leap second out of its place is not told from the second behind it: 1333 milliseconds past 23:56:04 are
written like 333 milliseconds past 23:56:05. -/
theorem misplaced_leap_second_lost :
    silentSince { secs := 1483228564, nanos := 1333000000 } ≠
        silentSince { secs := 1483228565, nanos := 333000000 } ∧
      (silentSince { secs := 1483228564, nanos := 1333000000 }).toJson.render =
        (silentSince { secs := 1483228565, nanos := 333000000 }).toJson.render := by
  constructor
  · intro same
    exact absurd (congrArg (fun r => r.status.startedAt.nanos) same) (by decide)
  · have start : ({ secs := 1483228564, nanos := 1333000000 } : Timestamp).settled =
        { secs := 1483228565, nanos := 333000000 } := by decide
    rw [← ExecutionResult.toJson_settled, ExecutionResult.settled, ExecStatus.settled, silentSince, start,
      silentSince]

end Overseer
