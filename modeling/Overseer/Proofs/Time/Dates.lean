import Overseer.Time.Calendar

/-!
# Every day has a date of its own

`Date.toDays` takes the date of a day back to the day (`toDays_ofDays`), for the days of every era, those
before the first as well as those far behind the four-digit years.  So two days never share a date.

Inside an era the day is cut into centuries, spans of four years and years, and only the last year of a span
has a leap day, and not if it is the last of a century other than the last.  On such a cut the quotients in
`yearOfEra` can be read off.
-/

namespace Overseer.Time.Date

variable {n c q k t : Nat}

/-! ## The year -/

/-- Days cut into `m + 1` parts of `w` days, the last of which may have one day more. -/
theorem exists_part {w m : Nat} (some : 0 < w) (inside : n ≤ w * (m + 1)) :
    ∃ k r, k ≤ m ∧ r ≤ w ∧ (r = w → k = m) ∧ n = w * k + r := by
  obtain rfl | early := Nat.eq_or_lt_of_le inside
  · exact ⟨m, w, Nat.le_refl m, Nat.le_refl w, fun _ => rfl, rfl⟩
  · have small := Nat.mod_lt n some
    exact ⟨n / w, n % w, Nat.le_of_lt_succ (Nat.div_lt_of_lt_mul early), Nat.le_of_lt small,
      fun same => absurd same (Nat.ne_of_lt small), (Nat.div_add_mod n w).symm⟩

/-- The year of an era that holds day `t` of year `k` of four years `q` of century `c`. -/
theorem yearOfEra_of_parts (century : c ≤ 3) (year : k ≤ 3) (day : t ≤ 365) (leap : t = 365 → k = 3)
    (inside : 1461 * q + 365 * k + t < 36524) :
    yearOfEra (36524 * c + 1461 * q + 365 * k + t) = 100 * c + 4 * q + k := by
  have centuries : (36524 * c + 1461 * q + 365 * k + t) / 36524 = c := by omega
  have eras : (36524 * c + 1461 * q + 365 * k + t) / 146096 = 0 := by omega
  -- the quotient by 1460 is ahead of the leap days by one at most, and not on the first day of a year
  obtain ⟨ahead, spans, one, first, last⟩ :
      ∃ ahead, (36524 * c + 1461 * q + 365 * k + t) / 1460 = 25 * c + q + ahead ∧ ahead ≤ 1 ∧
        (t = 0 → ahead = 0) ∧ (t = 365 → ahead = 1) :=
    ⟨(24 * c + q + 365 * k + t) / 1460, by omega, by omega, by omega, by omega⟩
  rw [yearOfEra, centuries, eras, spans]
  omega

theorem dayOfYear_of_parts (spans : q ≤ 24) (year : k ≤ 3) :
    dayOfYear (100 * c + 4 * q + k) = 36524 * c + 1461 * q + 365 * k := by
  unfold dayOfYear
  omega

/-- A day of an era lies in the year that holds it, at most 365 days behind its first. -/
theorem dayOfYear_yearOfEra (inside : n < 146097) :
    yearOfEra n < 400 ∧ ∃ t, t ≤ 365 ∧ dayOfYear (yearOfEra n) + t = n := by
  obtain ⟨c, r, century, small, last, rfl⟩ :=
    exists_part (w := 36524) (m := 3) (by decide) (by omega : n ≤ _)
  rcases Nat.eq_or_lt_of_le small with rfl | early
  · obtain rfl := last rfl
    exact ⟨by decide, 365, by decide, by decide⟩
  · obtain ⟨k, t, year, day, leap, cut⟩ :=
      exists_part (n := r % 1461) (w := 365) (m := 3) (by decide) (by omega)
    obtain ⟨q, same⟩ : ∃ q, r = 1461 * q + 365 * k + t := ⟨r / 1461, by omega⟩
    have holds : yearOfEra (36524 * c + r) = 100 * c + 4 * q + k := by
      rw [same, ← Nat.add_assoc, ← Nat.add_assoc]
      exact yearOfEra_of_parts century year day leap (by omega)
    rw [holds, dayOfYear_of_parts (by omega) year]
    exact ⟨by omega, t, day, by omega⟩

/-! ## The month -/

/-- A day of a year lies in the month that holds it. -/
theorem dayOfMonth_monthOfYear (inside : t ≤ 365) :
    monthOfYear t ≤ 11 ∧ ∃ d, d ≤ 30 ∧ dayOfMonth (monthOfYear t) + d = t := by
  unfold dayOfMonth monthOfYear
  exact ⟨by omega, t - (153 * ((5 * t + 2) / 153) + 2) / 5, by omega, by omega⟩

/-! ## The date -/

/-- The date of a day, from the parts in which the day is counted. -/
theorem ofDays_eq (days : Int) :
    ∃ (era : Int) (y m d : Nat), y < 400 ∧ m ≤ 11 ∧ d ≤ 30 ∧
      days + epochShift = era * daysPerEra + (dayOfYear y + dayOfMonth m + d : Nat) ∧
      ofDays days = ⟨era * 400 + y + (if m < 10 then 0 else 1), if m < 10 then m + 3 else m - 9, d + 1⟩ := by
  have inside : ((days + epochShift) % daysPerEra).toNat < 146097 := by
    unfold daysPerEra
    omega
  obtain ⟨year, t, small, cut⟩ := dayOfYear_yearOfEra inside
  obtain ⟨month, d, small', cut'⟩ := dayOfMonth_monthOfYear small
  have rest : ((days + epochShift) % daysPerEra).toNat -
      dayOfYear (yearOfEra ((days + epochShift) % daysPerEra).toNat) = t := by omega
  refine ⟨(days + epochShift) / daysPerEra, _, monthOfYear t, d, year, month, small', ?_, ?_⟩
  · rw [Nat.add_assoc, cut', cut]
    unfold daysPerEra
    omega
  · simp only [ofDays, rest]
    congr
    omega

/-- **The date of a day stands for that day.** -/
theorem toDays_ofDays (days : Int) : (ofDays days).toDays = days := by
  obtain ⟨era, y, m, d, year, month, -, cut, date⟩ := ofDays_eq days
  rw [date]
  rcases Nat.lt_or_ge m 10 with spring | winter
  · have inYear : ¬m + 3 ≤ 2 := by omega
    have eras : (era * 400 + y + 0) / 400 = era := by omega
    have years : ((era * 400 + y + 0) % 400).toNat = y := by omega
    simp only [toDays, if_pos spring, if_neg inYear, eras, years, Nat.add_sub_cancel]
    omega
  · have inYear : m - 9 ≤ 2 := by omega
    have months : m - 9 + 9 = m := by omega
    have eras : (era * 400 + y + 1 - 1) / 400 = era := by omega
    have years : ((era * 400 + y + 1 - 1) % 400).toNat = y := by omega
    simp only [toDays, if_neg (Nat.not_lt.mpr winter), if_pos inYear, eras, years, months]
    omega

/-- The months of dates are those from 1 to 12, and the days those from 1 to 31. -/
theorem bounds_ofDays (days : Int) :
    (1 ≤ (ofDays days).month ∧ (ofDays days).month ≤ 12) ∧
      1 ≤ (ofDays days).day ∧ (ofDays days).day ≤ 31 := by
  obtain ⟨era, y, m, d, -, month, day, -, date⟩ := ofDays_eq days
  rw [date]
  simp only
  refine ⟨?_, Nat.succ_le_succ (Nat.zero_le d), Nat.succ_le_succ day⟩
  split <;> omega

end Overseer.Time.Date
