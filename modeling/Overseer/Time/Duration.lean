/-!
# Lengths of time

A duration is a number of whole seconds that fits into 64 bits and a part of a second in
nanoseconds.  Adding two durations fails when the seconds no longer fit; everything that follows a
deadline asks for that sum and has to say what happens then.

## Main definitions

* `Duration` — seconds below `secondsBound` and nanoseconds below a second
* `Duration.nanoseconds` — the duration as one number
* `Duration.add?` — the sum, when it is a duration
-/

namespace Overseer.Time

/-- Whole seconds stay below this bound, which is that of 64 bits. -/
def secondsBound : Nat := 18446744073709551616

/-- Nanoseconds in a second. -/
def nanosPerSecond : Nat := 1000000000

/-- Nanoseconds in a millisecond. -/
def nanosPerMilli : Nat := 1000000

/-- A length of time. -/
structure Duration where
  /-- whole seconds -/
  secs : Nat
  /-- nanoseconds past the whole seconds -/
  nanos : Nat
  secs_lt : secs < secondsBound := by decide
  nanos_lt : nanos < nanosPerSecond := by decide
  deriving DecidableEq, Repr

namespace Duration

@[ext] theorem ext {a b : Duration} (hs : a.secs = b.secs) (hn : a.nanos = b.nanos) : a = b := by
  cases a; cases b; simp_all

/-- No time at all. -/
def zero : Duration where
  secs := 0
  nanos := 0

instance : Inhabited Duration := ⟨zero⟩

/-- A number of whole seconds. -/
def ofSecs (secs : UInt64) : Duration where
  secs := secs.toNat
  nanos := 0
  secs_lt := secs.toNat_lt

/-- The duration of a number of nanoseconds, when its seconds fit into 64 bits. -/
def ofNanoseconds? (n : Nat) : Option Duration :=
  if h : n / nanosPerSecond < secondsBound then
    some { secs := n / nanosPerSecond, nanos := n % nanosPerSecond, secs_lt := h
           nanos_lt := Nat.mod_lt _ (by decide) }
  else none

/-- The duration of a number of milliseconds below `2 ^ 64`. -/
def ofMillis (ms : UInt64) : Duration where
  secs := ms.toNat / 1000
  nanos := ms.toNat % 1000 * nanosPerMilli
  secs_lt := Nat.lt_of_le_of_lt (Nat.div_le_self _ _) ms.toNat_lt
  nanos_lt := by
    have := Nat.mod_lt ms.toNat (show 0 < 1000 by decide)
    simp only [nanosPerMilli, nanosPerSecond]
    omega

/-- The duration as one number of nanoseconds. -/
def nanoseconds (d : Duration) : Nat := d.secs * nanosPerSecond + d.nanos

/-- Whether the duration is no time at all. -/
def isZero (d : Duration) : Bool := d.secs == 0 && d.nanos == 0

/-- The sum of two durations, when its seconds fit into 64 bits. -/
def add? (a b : Duration) : Option Duration := ofNanoseconds? (a.nanoseconds + b.nanoseconds)

theorem nanoseconds_of_ofNanoseconds? {n : Nat} {d : Duration} (h : ofNanoseconds? n = some d) :
    d.nanoseconds = n := by
  simp only [ofNanoseconds?] at h
  split at h
  · cases h
    simpa [nanoseconds, Nat.mul_comm] using Nat.div_add_mod n nanosPerSecond
  · contradiction

theorem ofNanoseconds?_eq_none_iff {n : Nat} :
    ofNanoseconds? n = none ↔ secondsBound ≤ n / nanosPerSecond := by
  simp [ofNanoseconds?]

theorem add?_eq_none_iff {a b : Duration} :
    a.add? b = none ↔ secondsBound ≤ (a.nanoseconds + b.nanoseconds) / nanosPerSecond :=
  ofNanoseconds?_eq_none_iff

theorem isZero_iff {d : Duration} : d.isZero = true ↔ d = zero := by
  constructor
  · intro h
    simp only [isZero, Bool.and_eq_true, beq_iff_eq] at h
    exact ext h.1 h.2
  · rintro rfl
    rfl

end Duration

end Overseer.Time
