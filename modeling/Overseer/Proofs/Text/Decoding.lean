import Overseer.Text.Utf8

/-!
# Decoding finds its way back at every ASCII byte

An ASCII byte begins a character of its own and continues none.  So wherever one stands, it is read as
itself: a character that it breaks off becomes a replacement character, and the decoder is ready for
the next character behind it.  Decoding therefore commutes with cutting bytes at an ASCII byte
(`decodeBytes_append_ascii`), whatever the bytes are.

The fact rests on one invariant of the machine: a decoder within a character takes continuation bytes
only (`Decoder.TakesContinuations`).

No byte is decoded to nothing, so a text is empty only if there are no bytes
(`decode_eq_empty_iff`).  And a newline is decoded from nothing but a newline byte
(`newline_notMem_decodeBytes`): a character of several bytes has bits that a newline does not have, which
is an invariant of the machine, too (`Decoder.HasBits`).
-/

namespace Overseer.Text

namespace Decoder

/-- A decoder within a character takes no byte below the continuation bytes. -/
def TakesContinuations : Decoder → Prop
  | ready => True
  | within _ low _ _ => continuationLow ≤ low

theorem takesContinuations_start (b : UInt8) : (start b).1.TakesContinuations := by
  simp only [start]
  repeat' split
  all_goals simp [TakesContinuations, continuationLow]

theorem takesContinuations_read {d : Decoder} (b : UInt8) :
    (d.read b).1.TakesContinuations := by
  cases d with
  | ready => exact takesContinuations_start b
  | within missing low high bits =>
      simp only [read]
      split
      · cases missing with
        | zero => trivial
        | succ more => exact UInt8.le_refl _
      · exact takesContinuations_start b

/-- An ASCII byte is read as itself, behind whatever it breaks off. -/
theorem read_ascii {d : Decoder} (sound : d.TakesContinuations) {b : UInt8} (ascii : b < 0x80) :
    d.read b = (ready, d.finish ++ [Char.ofNat b.toNat]) := by
  cases d with
  | ready => simp [read, start, finish, ascii]
  | within missing low high bits =>
      have below : ¬low ≤ b := by
        intro reaches
        have step : continuationLow ≤ b := UInt8.le_trans sound reaches
        exact absurd (UInt8.lt_of_lt_of_le ascii step) (UInt8.lt_irrefl b)
      simp [read, start, finish, ascii, below]

/-- Decoding from any state commutes with cutting the bytes at an ASCII byte. -/
theorem run_append_ascii {d : Decoder} (sound : d.TakesContinuations) (front : List UInt8)
    {b : UInt8} (ascii : b < 0x80) (rest : List UInt8) :
    d.run (front ++ b :: rest) = d.run front ++ Char.ofNat b.toNat :: ready.run rest := by
  induction front generalizing d with
  | nil => simp [run, read_ascii sound ascii]
  | cons x front ih =>
      have next : (d.read x).1.TakesContinuations := takesContinuations_read x
      simp [run, ih next]

/-- A character that has begun leaves something behind. -/
theorem run_within_ne_nil (missing : Nat) (low high : UInt8) (bits : Nat) (bytes : List UInt8) :
    (within missing low high bits).run bytes ≠ [] := by
  induction bytes generalizing missing low high bits with
  | nil => simp [run, finish]
  | cons b rest ih =>
      simp only [run, read]
      split
      · cases missing with
        | zero => simp
        | succ more => exact ih more _ _ _
      · simp

/-! ### Characters of several bytes -/

/-- A decoder within a character has read a bit of it that is set, or is about to read one. -/
def HasBits : Decoder → Prop
  | ready => True
  | within missing low high bits =>
      high ≤ continuationHigh ∧ (0 < bits ∨ 0 < missing ∧ continuationLow < low)

theorem hasBits_start (b : UInt8) : (start b).1.HasBits := by
  simp only [start]
  repeat' split
  all_goals simp_all [HasBits, continuationLow, continuationHigh]
  all_goals
    simp only [UInt8.le_iff_toNat_le, UInt8.lt_iff_toNat_lt, ← UInt8.toNat_inj] at *
    simp at *
    omega

/-- The bits that are set stay, and the first continuation byte sets one if there is none yet. -/
theorem bits_pos {missing : Nat} {low high b : UInt8} {bits : Nat}
    (has : (within missing low high bits).HasBits) (inside : low ≤ b ∧ b ≤ high) :
    0 < bits * 0x40 + b.toNat % 0x40 := by
  obtain ⟨top, some | ⟨-, above⟩⟩ := has
  · omega
  · have least : 0x80 < b.toNat :=
      UInt8.lt_iff_toNat_lt.mp (UInt8.lt_of_lt_of_le above inside.1)
    have most : b.toNat ≤ 0xBF := UInt8.le_iff_toNat_le.mp (UInt8.le_trans inside.2 top)
    omega

theorem hasBits_read {d : Decoder} (has : d.HasBits) (b : UInt8) : (d.read b).1.HasBits := by
  cases d with
  | ready => exact hasBits_start b
  | within missing low high bits =>
      rw [read]
      by_cases inside : low ≤ b ∧ b ≤ high
      · rw [if_pos inside]
        cases missing with
        | zero => trivial
        | succ more => exact ⟨UInt8.le_refl _, Or.inl (bits_pos has inside)⟩
      · rw [if_neg inside]
        exact hasBits_start b

theorem eq_of_ofNat_eq_newline {n : Nat} (here : Char.ofNat n = '\n') : n = 10 := by
  unfold Char.ofNat at here
  by_cases valid : n.isValidChar
  · rw [dif_pos valid] at here
    exact congrArg Char.toNat here
  · rw [dif_neg valid] at here
    exact absurd here (by decide)

theorem newline_notMem_start {b : UInt8} (other : b ≠ 0x0A) : '\n' ∉ (start b).2 := by
  have ne : Char.ofNat b.toNat ≠ '\n' := by
    intro here
    exact other (UInt8.toNat_inj.mp (eq_of_ofNat_eq_newline here))
  simp only [start]
  repeat' split
  all_goals simp [replacement, ne.symm]

theorem newline_notMem_read {d : Decoder} (has : d.HasBits) {b : UInt8} (other : b ≠ 0x0A) :
    '\n' ∉ (d.read b).2 := by
  cases d with
  | ready => exact newline_notMem_start other
  | within missing low high bits =>
      rw [read]
      by_cases inside : low ≤ b ∧ b ≤ high
      · rw [if_pos inside]
        cases missing with
        | zero =>
            -- The last byte makes a character, and by now a bit above all of a newline's is set.
            have some : 0 < bits := has.2.resolve_right fun more => absurd more.1 (Nat.lt_irrefl 0)
            rw [List.mem_singleton]
            intro here
            have value := eq_of_ofNat_eq_newline here.symm
            omega
        | succ more => exact List.not_mem_nil
      · rw [if_neg inside]
        simp [replacement, newline_notMem_start other]

theorem newline_notMem_run {d : Decoder} (has : d.HasBits) {bytes : List UInt8}
    (other : 0x0A ∉ bytes) : '\n' ∉ d.run bytes := by
  induction bytes generalizing d with
  | nil =>
      cases d with
      | ready => exact List.not_mem_nil
      | within missing low high bits => simp [run, finish, replacement]
  | cons b rest ih =>
      rw [List.mem_cons, not_or] at other
      rw [run, List.mem_append, not_or]
      exact ⟨newline_notMem_read has (Ne.symm other.1), ih (hasBits_read has b) other.2⟩

end Decoder

@[simp] theorem decodeBytes_nil : decodeBytes [] = [] := rfl

/-- **Decoding commutes with cutting at an ASCII byte.** -/
theorem decodeBytes_append_ascii (front : List UInt8) {b : UInt8} (ascii : b < 0x80)
    (rest : List UInt8) :
    decodeBytes (front ++ b :: rest) =
      decodeBytes front ++ Char.ofNat b.toNat :: decodeBytes rest :=
  Decoder.run_append_ascii (d := .ready) trivial front ascii rest

theorem decodeBytes_eq_nil_iff {bytes : List UInt8} : decodeBytes bytes = [] ↔ bytes = [] := by
  cases bytes with
  | nil => simp
  | cons b rest =>
      simp only [decodeBytes, Decoder.run, Decoder.read, Decoder.start, reduceCtorEq, iff_false]
      repeat' split
      all_goals simp [Decoder.run_within_ne_nil]

/-- **A newline is decoded from a newline only.** -/
theorem newline_notMem_decodeBytes {bytes : List UInt8} (other : 0x0A ∉ bytes) :
    '\n' ∉ decodeBytes bytes :=
  Decoder.newline_notMem_run (d := .ready) trivial other

/-- **Only nothing is decoded to nothing.** -/
theorem decode_eq_empty_iff {bytes : ByteArray} : decode bytes = "" ↔ bytes.data.toList = [] := by
  rw [← String.toList_inj, toList_decode, String.toList_empty, decodeBytes_eq_nil_iff]

end Overseer.Text
