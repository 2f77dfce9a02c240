import ObservationQuery.Instant.Basic
import ObservationQuery.Text.Decimal

/-!
# Writing instants

* `Instant.text` — the instant in UTC with the fewest of 0, 3, 6 or 9 fraction digits that lose
  nothing, ended by `Z`.
* `Instant.offsetText` — the same with the offset written `+00:00`.
* `Instant.secondsText` — the instant without its fraction.

A year from 0 to 9999 has four digits and no sign; any other has a sign and at least four digits.
-/

namespace ObservationQuery

open Text

/-- The year of a date. -/
def yearText (year : Int) : List Char :=
  if 0 ≤ year ∧ year ≤ 9999 then padded 4 year.toNat
  else (if year < 0 then '-' else '+') :: padded 4 year.natAbs

/-- A date: year, month and day with hyphens between. -/
def Date.text (d : Date) : List Char :=
  yearText d.year ++ '-' :: padded 2 d.month ++ '-' :: padded 2 d.day

namespace Instant

/-- The time of day to the second; the second of a leap second is 60. -/
def clockText (t : Instant) : List Char :=
  padded 2 (t.secondOfDay / 3600) ++ ':' :: padded 2 (t.secondOfDay / 60 % 60) ++
    ':' :: padded 2 (t.secondOfDay % 60 + t.nanos / 1000000000)

/-- The fraction of the second, with the fewest of 0, 3, 6 or 9 digits that lose nothing. -/
def fractionText (t : Instant) : List Char :=
  let fraction := t.nanos % 1000000000
  if fraction = 0 then []
  else if fraction % 1000000 = 0 then '.' :: padded 3 (fraction / 1000000)
  else if fraction % 1000 = 0 then '.' :: padded 6 (fraction / 1000)
  else '.' :: padded 9 fraction

/-- Date and time of day, without fraction and offset. -/
def stem (t : Instant) : List Char := t.date.text ++ 'T' :: t.clockText

/-- The instant, exactly. -/
def text (t : Instant) : String := String.ofList (t.stem ++ t.fractionText ++ ['Z'])

/-- The instant, exactly, with a numeric offset. -/
def offsetText (t : Instant) : String :=
  String.ofList (t.stem ++ t.fractionText ++ ['+', '0', '0', ':', '0', '0'])

/-- The instant to the second. -/
def secondsText (t : Instant) : String := String.ofList (t.stem ++ ['Z'])

end Instant

end ObservationQuery
