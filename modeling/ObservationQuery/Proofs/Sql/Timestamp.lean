import ObservationQuery.Proofs.Sql.Range

/-!
# Reading timestamps

The database writes a year without a sign and with at least four digits; the years before the first
are counted back from it and marked `BC`. A bound is written with the year 0 and with signed years
before it, so that it cannot be read there.

* `Date.midnight` — the first second of a date.
* `readTimestamp` — the bound that the database reads.

Principal result: `readTimestamp_boundText` — which instants are written as infinite bounds, and
which others are read to the second. The finite bounds begin a day before 4700 BC.
-/

namespace ObservationQuery

open Text

/-- The first second of a date. -/
def Date.midnight (d : Date) : Int := d.dayNumber * 86400

namespace Sql

/-! ## Timestamps of the database -/

/-- A year from 0001 on, without a sign and with at least four digits. -/
def readCommonYear (cs : List Char) : Option (Nat × List Char) :=
  let (digits, rest) := takeDigits cs.length cs
  if 4 ≤ digits.length ∧ 1 ≤ ofDecimal digits then some (ofDecimal digits, rest) else none

/-- The years after the first, and those before it. -/
def readEra? (year : Nat) (mark : String) : Option Int :=
  if mark = "" then some year else if mark = " BC" then some (1 - year) else none

/-- A time of day as the seconds since midnight; second 60 is that after second 59. -/
def readTimeOfDay : Reader Nat := fun cs => do
  let (hour, cs) ← readPair cs
  let (minute, cs) ← readPair (← after? ":" cs)
  let (second, cs) ← readPair (← after? ":" cs)
  if hour ≤ 23 ∧ minute ≤ 59 ∧ second ≤ 60 then some (3600 * hour + 60 * minute + second, cs)
  else none

/-- The second of a timestamp in UTC. -/
def readSecond (text : String) : Option Int := do
  let (year, cs) ← readCommonYear text.toList
  let (month, cs) ← readPair (← after? "-" cs)
  let (day, cs) ← readPair (← after? "-" cs)
  let (second, cs) ← readTimeOfDay (← after? "T" cs)
  let year ← readEra? year (String.ofList (← after? "Z" cs))
  let date : Date := ⟨year, month, day⟩
  if date.Exists then some (date.midnight + second) else none

/-- The bound that the database reads. -/
def readTimestamp (text : String) : Option Bound :=
  if text = "-infinity" then some .past
  else if text = "infinity" then some .future
  else (readSecond text).map .second

example : readTimestamp "0044-03-15T12:00:00Z BC" =
    some (.second ((⟨-43, 3, 15⟩ : Date).midnight + 43200)) := by decide

/-! ## Reading what is written -/

theorem readPair_padded {n : Nat} (hn : n < 100) (rest : List Char) :
    readPair (padded 2 n ++ rest) = some (n, rest) := by
  have hlength : (padded 2 n).length = 2 := length_padded (by decide) (by omega)
  have hvalue := ofDecimal_padded 2 n
  have hdigit : ∀ c ∈ padded 2 n, c.isDigit = true := fun c => isDigit_of_mem_padded
  obtain ⟨a, b, hab⟩ := List.length_eq_two.mp hlength
  rw [hab] at hvalue hdigit ⊢
  have ha : a.isDigit = true := hdigit a (by simp)
  have hb : b.isDigit = true := hdigit b (by simp)
  simp only [List.cons_append, List.nil_append, readPair, ha, hb, Bool.and_self, if_true, hvalue]

theorem readCommonYear_padded (n : Nat) {rest : List Char} (hrest : Stops rest) :
    readCommonYear (padded 4 n ++ rest) = if 1 ≤ n then some (n, rest) else none := by
  have hlength : 4 ≤ (padded 4 n).length := by
    rw [padded, List.length_append, List.length_replicate]
    omega
  have htake : takeDigits (padded 4 n ++ rest).length (padded 4 n ++ rest) = (padded 4 n, rest) :=
    takeDigits_padded (by simp) hrest
  simp only [readCommonYear, htake, ofDecimal_padded, hlength, true_and]

/-- The year 0 and the years before it cannot be read. -/
theorem readCommonYear_yearText {year : Int} (h : year ≤ 0) {rest : List Char}
    (hrest : Stops rest) :
    readCommonYear (yearText year ++ rest) = none := by
  unfold yearText
  split
  · have hzero : ¬ 1 ≤ year.toNat := by omega
    rw [readCommonYear_padded _ hrest, if_neg hzero]
  · have hneg : year < 0 := by omega
    have hminus : Stops ('-' :: (padded 4 year.natAbs ++ rest)) := stops_cons (by decide)
    have htake : takeDigits ('-' :: (padded 4 year.natAbs ++ rest)).length
        ([] ++ '-' :: (padded 4 year.natAbs ++ rest)) =
          ([], '-' :: (padded 4 year.natAbs ++ rest)) :=
      takeDigits_append (by simp) (by simp) hminus
    rw [List.nil_append] at htake
    rw [if_pos hneg, List.cons_append, readCommonYear, htake]
    rfl

end Sql

namespace Instant

/-- An instant is never written as an infinite bound is. -/
theorem secondsText_ne (t : Instant) :
    t.secondsText ≠ "-infinity" ∧ t.secondsText ≠ "infinity" := by
  have hletter : 'i' ∉ t.secondsText.toList := by
    intro h
    rcases mem_secondsText h with h | h
    · exact absurd h (by decide)
    · exact absurd h (by decide)
  constructor
  · intro heq
    rw [heq] at hletter
    exact hletter (by decide)
  · intro heq
    rw [heq] at hletter
    exact hletter (by decide)

theorem day_eq (t : Instant) : t.date.dayNumber = t.seconds / 86400 :=
  Date.dayNumber_ofDayNumber _

theorem date_eq_iff {t : Instant} {d : Date} (h : Date.ofDayNumber d.dayNumber = d) :
    t.date = d ↔ t.seconds / 86400 = d.dayNumber := by
  constructor
  · rintro rfl
    exact t.day_eq.symm
  · intro hday
    rw [date, hday, h]

end Instant

/-- A date before the year 3001. -/
theorem Date.year_le {d : Date} (h : d.dayNumber ≤ (⟨3000, 1, 1⟩ : Date).dayNumber) :
    d.year ≤ 3000 := by
  rw [show (⟨3000, 1, 1⟩ : Date).dayNumber = 376200 by decide] at h
  unfold dayNumber at h
  dsimp only at h
  split at h <;> omega

namespace Sql

variable {t : Instant}

theorem readTimeOfDay_clockText (h : t.nanos < 1000000000) (rest : List Char) :
    readTimeOfDay (t.clockText ++ rest) = some (t.secondOfDay, rest) := by
  have hday : t.secondOfDay < 86400 := by
    unfold Instant.secondOfDay
    omega
  have hhour := fun rest => readPair_padded (n := t.secondOfDay / 3600) (by omega) rest
  have hminute := fun rest => readPair_padded (n := t.secondOfDay / 60 % 60) (by omega) rest
  have hsecond := fun rest => readPair_padded (n := t.secondOfDay % 60) (by omega) rest
  have hcolon : ∀ cs, after? ":" (':' :: cs) = some cs := after?_append ":"
  have hvalid : t.secondOfDay / 3600 ≤ 23 ∧ t.secondOfDay / 60 % 60 ≤ 59 ∧
      t.secondOfDay % 60 ≤ 60 := by omega
  have hvalue : 3600 * (t.secondOfDay / 3600) + 60 * (t.secondOfDay / 60 % 60) +
      t.secondOfDay % 60 = t.secondOfDay := by omega
  simp only [readTimeOfDay, Instant.clockText, Nat.div_eq_of_lt h, Nat.add_zero, List.append_assoc,
    List.cons_append, bind, hhour, Option.bind_some, hcolon, hminute, hsecond, if_pos hvalid,
    hvalue]

/-- From the year 1 on the second that is written for an instant is read. -/
theorem readSecond_secondsText (h : t.nanos < 1000000000) (hfirst : 1 ≤ t.date.year)
    (hlast : t.date.year ≤ 9999) : readSecond t.secondsText = some t.seconds := by
  have hdate : t.date.Exists := Date.exists_ofDayNumber _
  have hyear : ∀ cs, readCommonYear (yearText t.date.year ++ '-' :: cs) =
      some (t.date.year.toNat, '-' :: cs) := by
    intro cs
    rw [yearText, if_pos ⟨by omega, hlast⟩, readCommonYear_padded _ (stops_cons (by decide)),
      if_pos (by omega)]
  have hmonth := fun cs => readPair_padded hdate.bounds.1 cs
  have hday := fun cs => readPair_padded hdate.bounds.2 cs
  have hhyphen : ∀ cs, after? "-" ('-' :: cs) = some cs := after?_append "-"
  have hletter : ∀ cs, after? "T" ('T' :: cs) = some cs := after?_append "T"
  have hzone : after? "Z" ['Z'] = some [] := after?_self "Z"
  have hera : readEra? t.date.year.toNat (String.ofList []) = some t.date.year := by
    rw [readEra?, if_pos rfl, Int.toNat_of_nonneg (by omega)]
  have hvalue : t.date.midnight + t.secondOfDay = t.seconds := by
    rw [Date.midnight, Instant.day_eq, Instant.secondOfDay]
    omega
  simp only [readSecond, Instant.secondsText, String.toList_ofList, Instant.stem, Date.text,
    List.append_assoc, List.cons_append, bind, hyear, Option.bind_some, hhyphen, hmonth, hday,
    hletter, readTimeOfDay_clockText h, hzone, hera, if_pos hdate, hvalue]

/-- What is written for an instant before the year 1 cannot be read. -/
theorem readSecond_secondsText_eq_none (h : t.date.year ≤ 0) : readSecond t.secondsText = none := by
  have hyear : ∀ cs, readCommonYear (yearText t.date.year ++ '-' :: cs) = none :=
    fun cs => readCommonYear_yearText h (stops_cons (by decide))
  simp only [readSecond, Instant.secondsText, String.toList_ofList, Instant.stem, Date.text,
    List.append_assoc, List.cons_append, bind, hyear, Option.bind_none]

/-! ## Bounds -/

theorem boundText_eq_past : boundText t = "-infinity" ↔ t.seconds < firstFiniteSecond := by
  unfold boundText
  split
  · rename_i hpast
    exact iff_of_true rfl hpast
  · rename_i hnot
    refine iff_of_false ?_ hnot
    split
    · decide
    · exact t.secondsText_ne.1

theorem boundText_eq_future : boundText t = "infinity" ↔ lastFiniteSecond < t.seconds := by
  have hle : firstFiniteSecond ≤ lastFiniteSecond := by decide
  unfold boundText
  split
  · rename_i hpast
    exact iff_of_false (by decide) (by omega)
  · split
    · rename_i hfuture
      exact iff_of_true rfl hfuture
    · rename_i hnot
      exact iff_of_false t.secondsText_ne.2 hnot

/-- The finite seconds begin with the last day before 4700 BC. -/
theorem lt_firstFiniteSecond_iff : t.seconds < firstFiniteSecond ↔
    t.seconds < (⟨-4699, 1, 1⟩ : Date).midnight ∧ t.date ≠ ⟨-4700, 12, 31⟩ := by
  have hfirst : (⟨-4699, 1, 1⟩ : Date).midnight = firstFiniteSecond + 86400 := by decide
  have hday : (⟨-4700, 12, 31⟩ : Date).dayNumber * 86400 = firstFiniteSecond := by decide
  rw [hfirst, ne_eq, Instant.date_eq_iff (by decide)]
  omega

/-- **Before 4700 BC, but for the last day, instants are written as infinitely early, and after the
start of the year 3000 as infinitely late. Any other is read as its second, from the year 1 on; one
before cannot be read.** -/
theorem readTimestamp_boundText (h : t.nanos < 1000000000) :
    (boundText t = "-infinity" ↔
      t.seconds < (⟨-4699, 1, 1⟩ : Date).midnight ∧ t.date ≠ ⟨-4700, 12, 31⟩) ∧
    (boundText t = "infinity" ↔ (⟨3000, 1, 1⟩ : Date).midnight < t.seconds) ∧
    (boundText t ≠ "-infinity" → boundText t ≠ "infinity" →
      readTimestamp (boundText t) =
        if 1 ≤ t.date.year then some (.second t.seconds) else none) := by
  have hlast : (⟨3000, 1, 1⟩ : Date).midnight = lastFiniteSecond := by decide
  refine ⟨boundText_eq_past.trans lt_firstFiniteSecond_iff, by rw [hlast, boundText_eq_future],
    fun hpast hfuture => ?_⟩
  rw [readTimestamp, if_neg hpast, if_neg hfuture]
  have htext : boundText t = t.secondsText := by
    rw [boundText, if_neg (mt boundText_eq_past.mpr hpast),
      if_neg (mt boundText_eq_future.mpr hfuture)]
  rw [htext]
  by_cases hyear : 1 ≤ t.date.year
  · have hyear' : t.date.year ≤ 3000 := by
      apply Date.year_le
      rw [ne_eq, boundText_eq_future, ← hlast, Date.midnight] at hfuture
      rw [Instant.day_eq]
      omega
    rw [if_pos hyear, readSecond_secondsText h hyear (by omega)]
    rfl
  · rw [if_neg hyear, readSecond_secondsText_eq_none (by omega)]
    rfl

/-- The last half second before the year 3000 is read as its second. -/
theorem readTimestamp_half_second :
    let t : Instant := ⟨32503679999, 500000000, by decide, by decide, by decide, by decide⟩
    t.nanos < 1000000000 ∧ readTimestamp (boundText t) = some (.second 32503679999) := by
  intro t
  have hnanos : t.nanos < 1000000000 := by decide
  obtain ⟨hpast, hfuture, hread⟩ := readTimestamp_boundText hnanos
  rw [hread (by rw [ne_eq, hpast]; decide) (by rw [ne_eq, hfuture]; decide)]
  exact ⟨hnanos, by decide⟩

/-- The last day before 4700 BC is written with a signed year, which cannot be read, and so are the
ides of March in 44 BC. -/
theorem readTimestamp_before_common_era :
    let early : Instant := ⟨-210453379200, 0, by decide, by decide, by decide, by decide⟩
    let ides : Instant := ⟨-63517824000, 0, by decide, by decide, by decide, by decide⟩
    early.seconds < (⟨-4699, 1, 1⟩ : Date).midnight ∧ boundText early ≠ "-infinity" ∧
      readTimestamp (boundText early) = none ∧
      ides.date = ⟨-43, 3, 15⟩ ∧ boundText ides = "-0043-03-15T00:00:00Z" ∧
      readTimestamp (boundText ides) = none := by
  decide

end Sql

end ObservationQuery
