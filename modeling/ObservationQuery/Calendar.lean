/-!
# The proleptic Gregorian calendar

Days are counted from 1970-01-01; years before 1 are counted astronomically, so that year 0
precedes year 1.

* `Date` — a year, a month and a day; `Date.Exists` says that the calendar has that day.
* `Date.dayNumber` — the count of a date. The year is taken to begin in March, which puts the leap
  day last and makes the days before a month a linear function of the month.
* `Date.ofDayNumber` — the date of a count.
-/

namespace ObservationQuery

/-- Whether a year has a 29 February. -/
def isLeapYear (year : Int) : Bool :=
  year % 4 == 0 && (year % 100 != 0 || year % 400 == 0)

/-- The number of days of a month. -/
def daysInMonth (year : Int) (month : Nat) : Nat :=
  match month with
  | 2 => if isLeapYear year then 29 else 28
  | 4 | 6 | 9 | 11 => 30
  | _ => 31

/-- A day of the calendar. -/
structure Date where
  year : Int
  month : Nat
  day : Nat
  deriving DecidableEq, Repr

namespace Date

/-- The calendar has this day. -/
def Exists (d : Date) : Prop :=
  1 ≤ d.month ∧ d.month ≤ 12 ∧ 1 ≤ d.day ∧ d.day ≤ daysInMonth d.year d.month

instance (d : Date) : Decidable d.Exists := by unfold Exists; infer_instance

/-- The number of days from 1970-01-01 to this date. -/
def dayNumber (d : Date) : Int :=
  let year := if d.month ≤ 2 then d.year - 1 else d.year
  let month := if d.month ≤ 2 then d.month + 9 else d.month - 3
  365 * year + year / 4 - year / 100 + year / 400
    + ((153 * month + 2) / 5 + d.day : Nat) - 719469

/-- The date that lies `days` days after 1970-01-01. -/
def ofDayNumber (days : Int) : Date :=
  let shifted := days + 719468
  let era := shifted / 146097
  let dayOfEra := (shifted % 146097).toNat
  let yearOfEra := (dayOfEra - dayOfEra / 1460 + dayOfEra / 36524 - dayOfEra / 146096) / 365
  let dayOfYear := dayOfEra - (365 * yearOfEra + yearOfEra / 4 - yearOfEra / 100)
  let month := (5 * dayOfYear + 2) / 153
  let day := dayOfYear - (153 * month + 2) / 5 + 1
  let year := era * 400 + yearOfEra
  if month < 10 then ⟨year, month + 3, day⟩ else ⟨year + 1, month - 9, day⟩

example : (⟨1970, 1, 1⟩ : Date).dayNumber = 0 ∧ ofDayNumber 0 = ⟨1970, 1, 1⟩ := by decide
example : (⟨2000, 2, 29⟩ : Date).dayNumber = 11016 ∧ ofDayNumber 11016 = ⟨2000, 2, 29⟩ := by decide
example : (⟨-4700, 12, 31⟩ : Date).dayNumber = -2435803 := by decide

end Date

end ObservationQuery
