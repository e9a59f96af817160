import Overseer.Proofs.Terminal.Scanning

/-!
# Line endings

A line may end in a newline or in a carriage return and a newline, and some programs write more than one
carriage return.  Cleaned text does not show the difference.

Only one carriage return is stripped off a line as such.  The others are read like any character, in the
mode in which the line stands at its end, be it within an escape sequence that the line leaves open.  In
each of the five modes a carriage return is swallowed, and although it may change the mode, behind it
comes another one, the newline that ends every mode, or the end of the text
(`scan_replicate_return`).
-/

namespace Overseer.Terminal

open Overseer.Text

/-- Characters with a newline for each pair of a carriage return and a newline. -/
def unpairReturns : List Char → List Char
  | [] => []
  | '\r' :: '\n' :: rest => '\n' :: unpairReturns rest
  | c :: rest => c :: unpairReturns rest

/-- Characters with more carriage returns: `counts i` of them in front of the newline number `i`, or at
the end of the text if it has `i` newlines. -/
def insertReturns (counts : Nat → Nat) : List Char → List Char
  | [] => List.replicate (counts 0) '\r'
  | c :: rest =>
    if c = '\n' then
      List.replicate (counts 0) '\r' ++ '\n' :: insertReturns (fun i => counts (i + 1)) rest
    else c :: insertReturns counts rest

/-- A text with a newline for each pair of a carriage return and a newline. -/
def withoutPairs (raw : String) : String := .ofList (unpairReturns raw.toList)

/-- A text with more carriage returns in front of its newlines and at its end. -/
def withReturns (counts : Nat → Nat) (raw : String) : String :=
  .ofList (insertReturns counts raw.toList)

example : withoutPairs "a\r\nb\r\r\n\rc\r" = "a\nb\r\n\rc\r" := by cbv

example : withReturns (fun i => 2 - i) "a\n\nb" = "a\r\r\n\r\nb" := by cbv

variable {a b : List Char}

/-- Carriage returns are swallowed in every mode. -/
theorem scan_replicate_return (m : Mode) (n : Nat) : scan m (List.replicate n '\r') = [] := by
  induction n generalizing m with
  | zero => rfl
  | succ n ih =>
      have hidden : m.shows '\r' = false := by cases m <;> rfl
      rw [List.replicate_succ, scan_cons_of_not_shows hidden, ih]

/-- Two texts that are scanned alike are so behind any character. -/
theorem scan_cons_congr (same : ∀ m, scan m a = scan m b) (m : Mode) (c : Char) :
    scan m (c :: a) = scan m (c :: b) := by
  rw [scan, scan, same]

/-- A scan does not see the carriage return of a pair. -/
theorem scan_unpairReturns (m : Mode) (cs : List Char) : scan m (unpairReturns cs) = scan m cs := by
  fun_induction unpairReturns cs generalizing m with
  | case1 => rfl
  | case2 rest ih =>
      -- The carriage return may change the mode, and the newline behind it undoes that.
      have pair := scan_append_newline m ['\r'] rest
      rw [scan_return, List.nil_append, List.singleton_append] at pair
      rw [scan_newline, ih, pair]
  | case3 c rest _ ih => exact scan_cons_congr ih m c

/-- A scan does not see carriage returns in front of a newline or at the end. -/
theorem scan_insertReturns (counts : Nat → Nat) (m : Mode) (cs : List Char) :
    scan m (insertReturns counts cs) = scan m cs := by
  induction cs generalizing counts m with
  | nil => exact scan_replicate_return m _
  | cons c rest ih =>
      rw [insertReturns]
      split
      · next newline =>
        rw [scan_append_newline, scan_replicate_return, List.nil_append, ih, newline, scan_newline]
      · exact scan_cons_congr (ih counts) m c

/-- Texts that are scanned alike are cleaned alike. -/
theorem clean_congr {raw raw' : String} (same : scan .plain raw.toList = scan .plain raw'.toList) :
    clean raw = clean raw' := by
  rw [← String.toList_inj, toList_clean_eq_scan, toList_clean_eq_scan, same]

/-- **Line endings do not matter.**  A text is cleaned to the same if its pairs of a carriage return and a
newline are replaced by newlines, and if any numbers of carriage returns are inserted in front of its
newlines and at its end, whatever the lines leave open. -/
theorem clean_of_lineEndings (raw : String) :
    clean (withoutPairs raw) = clean raw ∧
      ∀ counts, clean (withReturns counts raw) = clean raw := by
  constructor
  · apply clean_congr
    rw [withoutPairs, String.toList_ofList, scan_unpairReturns]
  · intro counts
    apply clean_congr
    rw [withReturns, String.toList_ofList, scan_insertReturns]

end Overseer.Terminal
