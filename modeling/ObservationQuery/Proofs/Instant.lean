import ObservationQuery.Instant.Printer
import ObservationQuery.Instant.Reader
import ObservationQuery.Proofs.Calendar

/-!
# Instants are read as they are written

* `Stops` — a text does not go on with a digit.
* `Instant.clock` — the time of day of an instant.

Principal results: `readDate_text`, `readClock_clockText` — a date and a time of day are read as
they are written, whatever follows; `Instant.read?_text` — so is an instant.
-/

namespace ObservationQuery

open Text

/-! ## Numbers -/

/-- The text does not begin with a digit. -/
def Stops (rest : List Char) : Prop := ∀ c r, rest = c :: r → c.isDigit = false

theorem stops_nil : Stops [] := by
  intro c r h
  cases h

theorem stops_cons {c : Char} {rest : List Char} (h : c.isDigit = false) : Stops (c :: rest) := by
  rintro d r ⟨⟩
  exact h

theorem isBlank_of_isDigit {c : Char} (h : c.isDigit = true) : isBlank c = false := by
  have hc : 48 ≤ c.toNat ∧ c.toNat ≤ 57 := by
    simp only [Char.isDigit, Bool.and_eq_true, decide_eq_true_eq, UInt32.le_iff_toNat_le] at h
    exact h
  simp only [isBlank, Bool.or_eq_false_iff, Bool.and_eq_false_iff, beq_eq_false_iff_ne,
    decide_eq_false_iff_not]
  omega

/-- A text that begins with no blank has none to trim. -/
theorem trimStart_cons {c : Char} (h : isBlank c = false) (cs : List Char) :
    trimStart (c :: cs) = c :: cs := by
  rw [trimStart, List.dropWhile_cons_of_neg (by simp [h])]

theorem length_padded {width n : Nat} (hw : 0 < width) (hn : n < 10 ^ width) :
    (padded width n).length = width := by
  have hlen : (decimal n).length ≤ width :=
    (Nat.length_toDigits_le_iff (by decide) hw).mpr hn
  rw [padded, List.length_append, List.length_replicate]
  omega

/-- A padded numeral begins with a digit. -/
theorem padded_eq_cons (width n : Nat) : ∃ d ds, padded width n = d :: ds ∧ d.isDigit = true := by
  cases hds : padded width n with
  | nil => simp [padded, decimal_ne_nil] at hds
  | cons d ds =>
    have hd : d ∈ padded width n := by simp [hds]
    exact ⟨d, ds, rfl, isDigit_of_mem_padded hd⟩

theorem trimStart_padded (width n : Nat) (rest : List Char) :
    trimStart (padded width n ++ rest) = padded width n ++ rest := by
  obtain ⟨d, ds, hds, hd⟩ := padded_eq_cons width n
  rw [hds, List.cons_append, trimStart_cons (isBlank_of_isDigit hd)]

/-- A padded numeral is taken whole. -/
theorem takeDigits_padded {limit width n : Nat} {rest : List Char}
    (hlen : (padded width n).length ≤ limit) (hrest : Stops rest) :
    takeDigits limit (padded width n ++ rest) = (padded width n, rest) :=
  takeDigits_append (fun _ => isDigit_of_mem_padded) hlen hrest

theorem readNumber_padded {width n : Nat} {rest : List Char} (hw : 0 < width)
    (hn : n < 10 ^ width) (hrest : Stops rest) :
    readNumber width (padded width n ++ rest) = some (n, rest) := by
  have hlen := (length_padded hw hn).le
  have hvalue := ofDecimal_padded width n
  rw [readNumber, trimStart_padded, takeDigits_padded hlen hrest]
  obtain ⟨d, ds, hds, -⟩ := padded_eq_cons width n
  rw [hds] at hvalue ⊢
  dsimp only
  rw [hvalue]

/-- A run of digits of any length. -/
theorem unsignedYear_padded {width n : Nat} {rest : List Char} (hrest : Stops rest) :
    readYear.unsignedYear (padded width n ++ rest) = some (n, rest) := by
  have hvalue := ofDecimal_padded width n
  rw [readYear.unsignedYear, takeDigits_padded (by simp) hrest]
  obtain ⟨d, ds, hds, -⟩ := padded_eq_cons width n
  rw [hds] at hvalue ⊢
  dsimp only
  rw [hvalue]

/-- A point and the digits of a fraction. -/
theorem readFraction_padded {width n : Nat} {rest : List Char} (hw : 0 < width) (hw9 : width ≤ 9)
    (hn : n < 10 ^ width) (hrest : Stops rest) :
    readFraction ('.' :: padded width n ++ rest) = some (n * Nat.pow 10 (9 - width), rest) := by
  have hlen := length_padded hw hn
  have hvalue := ofDecimal_padded width n
  have htake : (padded width n).take 9 = padded width n := List.take_of_length_le (by omega)
  rw [List.cons_append, readFraction, takeDigits_padded (by simp) hrest]
  obtain ⟨d, ds, hds, -⟩ := padded_eq_cons width n
  rw [hds] at hlen hvalue htake ⊢
  dsimp only
  rw [htake, hlen, hvalue]

theorem skipMark_cons {mark : Char} (h : isBlank mark = false) (rest : List Char) :
    skipMark mark (mark :: rest) = some rest := by
  rw [skipMark, trimStart_cons h]
  simp

/-! ## Dates -/

/-- A year without a sign has at most four digits. -/
theorem readYear_padded {n : Nat} (hn : n ≤ 9999) {rest : List Char} (hrest : Stops rest) :
    readYear (padded 4 n ++ rest) = some ((n : Int), rest) := by
  have hread : readNumber 4 (padded 4 n ++ rest) = some (n, rest) :=
    readNumber_padded (by decide) (by omega) hrest
  rw [readYear, trimStart_padded]
  obtain ⟨d, ds, hds, hd⟩ := padded_eq_cons 4 n
  rw [hds, List.cons_append] at hread ⊢
  split
  · rename_i h
    rw [(List.cons.inj h).1] at hd
    cases hd
  · rename_i h
    rw [(List.cons.inj h).1] at hd
    cases hd
  · rw [hread, Option.map_some]

theorem readYear_yearText (year : Int) {rest : List Char} (hrest : Stops rest) :
    readYear (yearText year ++ rest) = some (year, rest) := by
  unfold yearText
  split
  · rename_i h
    rw [readYear_padded (by omega) hrest, Int.toNat_of_nonneg h.1]
  · split
    · rename_i hneg
      have hyear : -(year.natAbs : Int) = year := by omega
      rw [List.cons_append, readYear, trimStart_cons (by decide)]
      simp only [unsignedYear_padded hrest, Option.map_some, hyear]
    · have hyear : (year.natAbs : Int) = year := by omega
      rw [List.cons_append, readYear, trimStart_cons (by decide)]
      simp only [unsignedYear_padded hrest, Option.map_some, hyear]

theorem Date.Exists.bounds {d : Date} (h : d.Exists) : d.month < 100 ∧ d.day < 100 := by
  obtain ⟨-, hmonth, -, hday⟩ := h
  have hlong : daysInMonth d.year d.month ≤ 31 := by
    unfold daysInMonth
    split
    · split <;> omega
    all_goals omega
  omega

/-- **A date of the calendar is read as it is written, whatever follows.** -/
theorem readDate_text {d : Date} (h : d.Exists) {rest : List Char} (hrest : Stops rest) :
    readDate (d.text ++ rest) = some (d, rest) := by
  have hhyphen : ∀ cs, Stops ('-' :: cs) := fun cs => stops_cons (by decide)
  have hskip : ∀ cs, skipMark '-' ('-' :: cs) = some cs := skipMark_cons (by decide)
  have hmonth : ∀ cs, readNumber 2 (padded 2 d.month ++ '-' :: cs) = some (d.month, '-' :: cs) :=
    fun cs => readNumber_padded (by decide) h.bounds.1 (hhyphen cs)
  have hday : readNumber 2 (padded 2 d.day ++ rest) = some (d.day, rest) :=
    readNumber_padded (by decide) h.bounds.2 hrest
  simp only [readDate, Date.text, List.append_assoc, List.cons_append, bind, pure,
    readYear_yearText d.year (hhyphen _), Option.bind_some, hskip, hmonth, hday, guard, if_pos h]

/-! ## Times of day -/

/-- The time of day of an instant in UTC; the second of a leap second is 60. -/
def Instant.clock (t : Instant) : Clock where
  hour := t.secondOfDay / 3600
  minute := t.secondOfDay / 60 % 60
  second := t.secondOfDay % 60 + t.nanos / 1000000000
  fraction := t.nanos % 1000000000

theorem readFraction_fractionText (t : Instant) {rest : List Char} (hrest : Stops rest)
    (hdot : rest.head? ≠ some '.') :
    readFraction (t.fractionText ++ rest) = some (t.nanos % 1000000000, rest) := by
  have hlt : t.nanos % 1000000000 < 1000000000 := Nat.mod_lt _ (by decide)
  unfold Instant.fractionText
  dsimp only
  split
  · rename_i hzero
    rw [hzero, List.nil_append]
    unfold readFraction
    split
    · exact absurd rfl hdot
    · rfl
  split
  · have hmillis : t.nanos % 1000000000 / 1000000 * 1000000 = t.nanos % 1000000000 := by omega
    rw [readFraction_padded (by decide) (by decide) (by omega) hrest]
    simp only [Nat.reduceSub, Nat.pow_eq, Nat.reducePow, hmillis]
  split
  · have hmicros : t.nanos % 1000000000 / 1000 * 1000 = t.nanos % 1000000000 := by omega
    rw [readFraction_padded (by decide) (by decide) (by omega) hrest]
    simp only [Nat.reduceSub, Nat.pow_eq, Nat.reducePow, hmicros]
  · rw [readFraction_padded (by decide) (by decide) (by omega) hrest]
    simp only [Nat.reduceSub, Nat.pow_eq, Nat.reducePow, Nat.mul_one]

theorem stops_fractionText (t : Instant) {rest : List Char} (hrest : Stops rest) :
    Stops (t.fractionText ++ rest) := by
  unfold Instant.fractionText
  dsimp only
  split
  · exact hrest
  · split
    · exact stops_cons (by decide)
    · split <;> exact stops_cons (by decide)

/-- **A time of day is read as it is written, with its leap second, whatever follows.** -/
theorem readClock_clockText (t : Instant) {rest : List Char} (hrest : Stops rest)
    (hdot : rest.head? ≠ some '.') :
    readClock (t.clockText ++ (t.fractionText ++ rest)) = some (t.clock, rest) := by
  have hday : t.secondOfDay < 86400 := by
    unfold Instant.secondOfDay
    omega
  have hnanos := t.nanos_lt
  have hcolon : ∀ cs, Stops (':' :: cs) := fun cs => stops_cons (by decide)
  have hskip : ∀ cs, skipMark ':' (':' :: cs) = some cs := skipMark_cons (by decide)
  have hhour : ∀ cs, readNumber 2 (padded 2 (t.secondOfDay / 3600) ++ ':' :: cs) =
      some (t.secondOfDay / 3600, ':' :: cs) :=
    fun cs => readNumber_padded (by decide) (by omega) (hcolon cs)
  have hminute : ∀ cs, readNumber 2 (padded 2 (t.secondOfDay / 60 % 60) ++ ':' :: cs) =
      some (t.secondOfDay / 60 % 60, ':' :: cs) :=
    fun cs => readNumber_padded (by decide) (by omega) (hcolon cs)
  have hsecond : readNumber 2 (padded 2 (t.secondOfDay % 60 + t.nanos / 1000000000) ++
      (t.fractionText ++ rest)) =
      some (t.secondOfDay % 60 + t.nanos / 1000000000, t.fractionText ++ rest) :=
    readNumber_padded (by decide) (by omega) (stops_fractionText t hrest)
  have hclock : t.secondOfDay / 3600 ≤ 23 ∧ t.secondOfDay / 60 % 60 ≤ 59 ∧
      t.secondOfDay % 60 + t.nanos / 1000000000 ≤ 60 := by omega
  simp only [readClock, Instant.clockText, List.append_assoc, List.cons_append, bind, pure, hhour,
    Option.bind_some, hskip, hminute, hsecond, readFraction_fractionText t hrest hdot, guard,
    if_pos hclock, Instant.clock]

namespace Instant

/-- The date and the time of day of an instant are those of no other. -/
theorem ofClock?_clock (t : Instant) : ofClock? t.date t.clock 0 = some t := by
  have hday : t.date.dayNumber = t.seconds / 86400 := Date.dayNumber_ofDayNumber _
  have hnanos := t.nanos_lt
  have hleap := t.leap_ends_minute
  have hsecond : (t.secondOfDay : Int) = t.seconds % 86400 := by
    unfold secondOfDay
    omega
  have hclock : t.clock.hour = t.secondOfDay / 3600 ∧ t.clock.minute = t.secondOfDay / 60 % 60 ∧
      t.clock.second = t.secondOfDay % 60 + t.nanos / 1000000000 ∧
      t.clock.fraction = t.nanos % 1000000000 := ⟨rfl, rfl, rfl, rfl⟩
  -- second 60 is the leap second that follows second 59
  have hseconds : (t.seconds / 86400 * 86400 + ((3600 * t.clock.hour + 60 * t.clock.minute +
      if t.clock.second = 60 then 59 else t.clock.second : Nat) : Int) - 60 * 0) = t.seconds := by
    split <;> omega
  have hfraction : (if t.clock.second = 60 then t.clock.fraction + 1000000000
      else t.clock.fraction) = t.nanos := by
    split <;> omega
  rw [ofClock?, hday, hseconds, hfraction, of?_seconds_nanos]

/-- **An instant is read as it is written.** -/
theorem read?_text (t : Instant) : read? t.text = some t := by
  have hdate : readDate (t.date.text ++ 'T' :: (t.clockText ++ (t.fractionText ++ ['Z']))) =
      some (t.date, 'T' :: (t.clockText ++ (t.fractionText ++ ['Z']))) :=
    readDate_text (Date.exists_ofDayNumber _) (stops_cons (by decide))
  have hclock : readClock (t.clockText ++ (t.fractionText ++ ['Z'])) = some (t.clock, ['Z']) :=
    readClock_clockText t (stops_cons (by decide)) (by decide)
  have hoffset : readOffset ['Z'] = some (0, []) := by decide
  have hend : (trimStart []).isEmpty = true := rfl
  simp only [read?, text, String.toList_ofList, stem, List.append_assoc, List.cons_append, hdate,
    bind, Option.bind_some, guard, if_pos t.year_date, hclock, hoffset, hend, if_true, pure,
    ofClock?_clock]

end Instant

end ObservationQuery
