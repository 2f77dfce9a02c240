import Mathlib.Tactic.IntervalCases
import ObservationQuery.Instant.Basic

/-!
# Dates and day counts

An era has 400 years, which begin in March, and 146097 days: four centuries of 36524 days and a leap
day. A century has groups of four years, each of 1461 days but perhaps the last.

* `daysBeforeYear` — the days of an era before one of its years.
* `Date.Lies` — the place of a date in its era: the year, the day of the year and the month.

Principal results: `Date.lies_ofDayNumber` — the date of a day count lies where the count says;
`Date.exists_ofDayNumber` — the calendar has it; `Date.dayNumber_ofDayNumber` — it has that count;
`Instant.year_date` — the date of an instant is in the years of the time scale.
-/

namespace ObservationQuery

/-! ## Days of an era -/

/-- A year ends with a leap day if it is the last of its group of four, but for the last group of
the first three centuries. -/
theorem isLeapYear_iff (era : Int) {c q k : Nat} (hc : c < 4) (hq : q < 25) (hk : k < 4) :
    isLeapYear (era * 400 + (100 * c + 4 * q + k : Nat) + 1) = true ↔
      k = 3 ∧ (q < 24 ∨ c = 3) := by
  simp only [isLeapYear, Bool.and_eq_true, Bool.or_eq_true, beq_iff_eq, bne_iff_ne, ne_eq]
  omega

/-- A day of an era, by century, group of years, year of the group and day of the year. -/
theorem exists_century {e : Nat} (he : e < 146097) : ∃ c q k r, c < 4 ∧ q < 25 ∧ k < 4 ∧
    e = 36524 * c + 1461 * q + 365 * k + r ∧
      (r < 365 ∨ r = 365 ∧ k = 3 ∧ (q < 24 ∨ c = 3)) := by
  -- the last day of the era makes its last century a day longer
  obtain ⟨c, d, hc, rfl, hd⟩ : ∃ c d, c < 4 ∧ e = 36524 * c + d ∧
      (d < 36524 ∨ c = 3 ∧ d = 36524) := by
    refine ⟨min (e / 36524) 3, e - 36524 * min (e / 36524) 3, ?_⟩
    omega
  obtain ⟨q, s, rfl, hs⟩ : ∃ q s, d = 1461 * q + s ∧ s < 1461 := ⟨d / 1461, d % 1461, by omega⟩
  exact ⟨c, q, min (s / 365) 3, s - 365 * min (s / 365) 3, hc, by omega, by omega, by omega,
    by omega⟩

/-- The year of a day, from the count of the leap days before it. -/
theorem yearOfEra_eq {c q k r e : Nat} (hc : c < 4) (hq : q < 25) (hk : k < 4)
    (he : e = 36524 * c + 1461 * q + 365 * k + r)
    (hr : r < 365 ∨ r = 365 ∧ k = 3 ∧ (q < 24 ∨ c = 3)) :
    (e - e / 1460 + e / 36524 - e / 146096) / 365 = 100 * c + 4 * q + k := by
  have hgroup : e / 1460 = 25 * c + q ∧ 24 * c + q + 365 * k + r < 1460 ∨
      e / 1460 = 25 * c + q + 1 ∧ 1460 ≤ 24 * c + q + 365 * k + r := by omega
  have hlast : e / 36524 = c ∧ e / 146096 = 0 ∨ e = 146096 := by omega
  rcases hlast with ⟨hf, hg⟩ | rfl
  · rw [hf, hg]
    omega
  · omega

/-- The days of an era before one of its years. -/
def daysBeforeYear (y : Nat) : Nat := 365 * y + y / 4 - y / 100

theorem daysBeforeYear_eq {c q k : Nat} (hq : q < 25) (hk : k < 4) :
    daysBeforeYear (100 * c + 4 * q + k) = 36524 * c + 1461 * q + 365 * k := by
  unfold daysBeforeYear
  omega

/-- A day of a year is in the month that a linear function gives. -/
theorem month_le_lt {r : Nat} (hr : r ≤ 365) : (5 * r + 2) / 153 < 12 ∧
    (153 * ((5 * r + 2) / 153) + 2) / 5 ≤ r ∧ r < (153 * ((5 * r + 2) / 153 + 1) + 2) / 5 := by
  omega

namespace Date

/-- The date is day `r` of year `y` of an era, in month `m`; years begin in March, and days, months
and years are counted from zero. -/
structure Lies (d : Date) (era : Int) (y r m : Nat) : Prop where
  year_lt : y < 400
  day_lt : r < 365 ∨ r = 365 ∧ isLeapYear (era * 400 + y + 1) = true
  month_lt : m < 12
  month_le : (153 * m + 2) / 5 ≤ r
  lt_month : r < (153 * (m + 1) + 2) / 5
  eq : d = if m < 10 then ⟨era * 400 + y, m + 3, r - (153 * m + 2) / 5 + 1⟩
    else ⟨era * 400 + y + 1, m - 9, r - (153 * m + 2) / 5 + 1⟩

/-- The date of a day count lies where the count says. -/
theorem lies_ofDayNumber (days : Int) : ∃ era y r m, Lies (ofDayNumber days) era y r m ∧
    days = era * 146097 + daysBeforeYear y + r - 719468 := by
  have hdays := Int.emod_add_mul_ediv (days + 719468) 146097
  have hlt : ((days + 719468) % 146097).toNat < 146097 := by omega
  have hcast : (((days + 719468) % 146097).toNat : Int) = (days + 719468) % 146097 := by omega
  rw [← hcast] at hdays
  obtain ⟨c, q, k, r, hc, hq, hk, hday, hr⟩ := exists_century hlt
  have hyear := yearOfEra_eq hc hq hk hday hr
  have hstart := daysBeforeYear_eq (c := c) hq hk
  rw [← isLeapYear_iff ((days + 719468) / 146097) hc hq hk] at hr
  have hlong : r ≤ 365 := by omega
  obtain ⟨hm, hle, hlast⟩ := month_le_lt hlong
  obtain ⟨y, hy⟩ : ∃ y, 100 * c + 4 * q + k = y := ⟨_, rfl⟩
  rw [hy] at hyear hstart hr
  have hrest : ((days + 719468) % 146097).toNat - (365 * y + y / 4 - y / 100) = r := by
    rw [show 365 * y + y / 4 - y / 100 = daysBeforeYear y from rfl, hstart, hday]
    omega
  refine ⟨(days + 719468) / 146097, y, r, (5 * r + 2) / 153, ⟨?_, hr, hm, hle, hlast, ?_⟩, ?_⟩
  · omega
  · simp only [ofDayNumber, hyear, hrest]
  · rw [hstart]
    omega

variable {d : Date} {era : Int} {y r m : Nat}

theorem Lies.exists (h : d.Lies era y r m) : d.Exists := by
  obtain ⟨-, hday, hmonth, hle, hlt, rfl⟩ := h
  interval_cases m <;> simp [Exists, daysInMonth] <;> grind

theorem Lies.dayNumber (h : d.Lies era y r m) :
    d.dayNumber = era * 146097 + daysBeforeYear y + r - 719468 := by
  obtain ⟨hyear, -, hmonth, hle, hlt, rfl⟩ := h
  unfold daysBeforeYear
  split
  · have hm : ¬ m + 3 ≤ 2 := by omega
    simp only [Date.dayNumber, hm, if_false, Nat.add_sub_cancel]
    omega
  · have hm : m - 9 ≤ 2 := by omega
    simp only [Date.dayNumber, hm, if_true, Int.add_sub_cancel]
    have : m - 9 + 9 = m := by omega
    rw [this]
    omega

/-- The calendar has the date of a day count. -/
theorem exists_ofDayNumber (days : Int) : (ofDayNumber days).Exists := by
  obtain ⟨_, _, _, _, h, -⟩ := lies_ofDayNumber days
  exact h.exists

/-- The date of a day count has that count. -/
theorem dayNumber_ofDayNumber (days : Int) : (ofDayNumber days).dayNumber = days := by
  obtain ⟨_, _, _, _, h, hdays⟩ := lies_ofDayNumber days
  rw [h.dayNumber, ← hdays]

end Date

/-- The date of an instant is in the years of the time scale. -/
theorem Instant.year_date (t : Instant) : -262143 ≤ t.date.year ∧ t.date.year ≤ 262142 := by
  have hfirst := t.firstSecond_le
  have hlast := t.le_lastSecond
  rw [firstSecond, show (⟨-262143, 1, 1⟩ : Date).dayNumber = -96465292 by decide] at hfirst
  rw [lastSecond, show (⟨262142, 12, 31⟩ : Date).dayNumber = 95026236 by decide] at hlast
  obtain ⟨era, y, r, m, h, hdays⟩ := Date.lies_ofDayNumber (t.seconds / 86400)
  obtain ⟨hyear, -, hmonth, hle, hlt, heq⟩ := h
  unfold daysBeforeYear at hdays
  -- the first and the last year of the time scale end in the eras -656 and 655
  have hera : era = -656 ∨ era = 655 ∨ -656 < era ∧ era < 655 := by omega
  rw [date, heq]
  split <;> rcases hera with rfl | rfl | hera <;> constructor <;> dsimp only <;> omega

end ObservationQuery
