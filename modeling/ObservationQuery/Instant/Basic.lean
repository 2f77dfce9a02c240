import ObservationQuery.Calendar

/-!
# Instants

A point on the UTC time scale, to the nanosecond.

* `Instant` — whole seconds since 1970-01-01T00:00:00Z and nanoseconds. A leap second is the last
  second of a minute with 10⁹ nanoseconds or more: it comes after `:59.999999999` and before the
  next minute. The years run from -262143 to 262142.
* `Instant.of?`, `Instant.ofSeconds?` — the instant of a count, where there is one.
* `Instant.le_total`, `Instant.le_antisymm` — instants are linearly ordered, seconds first.
-/

namespace ObservationQuery

/-- The first second of the year -262143. -/
def firstSecond : Int := (⟨-262143, 1, 1⟩ : Date).dayNumber * 86400

/-- The last second of the year 262142. -/
def lastSecond : Int := (⟨262142, 12, 31⟩ : Date).dayNumber * 86400 + 86399

/-- A point in time; nanoseconds from 10⁹ on lie in the leap second that ends a minute. -/
structure Instant where
  seconds : Int
  nanos : Nat
  firstSecond_le : firstSecond ≤ seconds
  le_lastSecond : seconds ≤ lastSecond
  nanos_lt : nanos < 2000000000
  leap_ends_minute : 1000000000 ≤ nanos → seconds % 60 = 59
  deriving DecidableEq, Repr

namespace Instant

/-- The instant of a count of seconds and nanoseconds, if the time scale has it. -/
def of? (seconds : Int) (nanos : Nat) : Option Instant :=
  if h : firstSecond ≤ seconds ∧ seconds ≤ lastSecond ∧ nanos < 2000000000 ∧
      (1000000000 ≤ nanos → seconds % 60 = 59) then
    some ⟨seconds, nanos, h.1, h.2.1, h.2.2.1, h.2.2.2⟩
  else none

/-- The start of a second, if the time scale has it. -/
def ofSeconds? (seconds : Int) : Option Instant := of? seconds 0

theorem of?_seconds_nanos (t : Instant) : of? t.seconds t.nanos = some t := by
  unfold of?
  rw [dif_pos ⟨t.firstSecond_le, t.le_lastSecond, t.nanos_lt, t.leap_ends_minute⟩]

/-- Earlier or equal: seconds first, then nanoseconds. -/
def le (a b : Instant) : Prop :=
  a.seconds < b.seconds ∨ a.seconds = b.seconds ∧ a.nanos ≤ b.nanos

instance : LE Instant := ⟨le⟩

instance (a b : Instant) : Decidable (a ≤ b) :=
  inferInstanceAs (Decidable (a.seconds < b.seconds ∨ a.seconds = b.seconds ∧ a.nanos ≤ b.nanos))

theorem le_def {a b : Instant} :
    a ≤ b ↔ a.seconds < b.seconds ∨ a.seconds = b.seconds ∧ a.nanos ≤ b.nanos := Iff.rfl

theorem le_total (a b : Instant) : a ≤ b ∨ b ≤ a := by
  simp only [le_def]; omega

theorem le_antisymm {a b : Instant} (h : a ≤ b) (h' : b ≤ a) : a = b := by
  obtain ⟨s, n, _, _, _, _⟩ := a
  obtain ⟨s', n', _, _, _, _⟩ := b
  simp only [le_def] at h h'
  obtain rfl : s = s' := by omega
  obtain rfl : n = n' := by omega
  rfl

/-- The date in UTC. -/
def date (t : Instant) : Date := .ofDayNumber (t.seconds / 86400)

/-- The seconds since midnight in UTC, the leap second counted with the second before it. -/
def secondOfDay (t : Instant) : Nat := (t.seconds % 86400).toNat

end Instant

end ObservationQuery
