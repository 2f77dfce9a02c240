import ObservationQuery.Instant.Printer

/-!
# Instants as bounds of ranges

* `Sql.boundText` — an instant as the bound of a range: to the second, and infinite before the first
  or after the last second that is written as a finite bound.
-/

namespace ObservationQuery.Sql

/-- The first second that is written as a finite bound, -4700-12-31T00:00:00Z. -/
def firstFiniteSecond : Int := -210453379200

/-- The last second that is written as a finite bound, 3000-01-01T00:00:00Z. -/
def lastFiniteSecond : Int := 32503680000

/-- An instant as the bound of a range. -/
def boundText (t : Instant) : String :=
  if t.seconds < firstFiniteSecond then "-infinity"
  else if lastFiniteSecond < t.seconds then "infinity"
  else t.secondsText

end ObservationQuery.Sql
