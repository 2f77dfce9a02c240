import ObservationQuery.Instant.Basic
import ObservationQuery.Text.Blank
import ObservationQuery.Text.Decimal

/-!
# Reading instants

A date-time is a date, one of `T`, `t` or a space, a time of day, and an offset from UTC. Blanks may
stand before a number, before a hyphen or a colon of the date and the time, before the offset and
at the end.

* `Instant.read?` — the instant a text names.
* `readDate`, `readClock`, `readOffset` — its parts, each with the text that follows it.
-/

namespace ObservationQuery

open Text

/-- A number of at most `limit` digits, after any blanks. -/
def readNumber (limit : Nat) (cs : List Char) : Option (Nat × List Char) :=
  match takeDigits limit (trimStart cs) with
  | ([], _) => none
  | (digits, rest) => some (ofDecimal digits, rest)

/-- The text after `mark`, which may have blanks before it. -/
def skipMark (mark : Char) (cs : List Char) : Option (List Char) :=
  match trimStart cs with
  | c :: rest => if c = mark then some rest else none
  | [] => none

/-- A year: a sign and any number of digits, or one to four digits. -/
def readYear (cs : List Char) : Option (Int × List Char) :=
  match trimStart cs with
  | '-' :: rest => unsignedYear rest |>.map fun (n, rest) => (-(n : Int), rest)
  | '+' :: rest => unsignedYear rest |>.map fun (n, rest) => ((n : Int), rest)
  | rest => readNumber 4 rest |>.map fun (n, rest) => ((n : Int), rest)
where
  unsignedYear (cs : List Char) : Option (Nat × List Char) :=
    match takeDigits cs.length cs with
    | ([], _) => none
    | (digits, rest) => some (ofDecimal digits, rest)

/-- A day that the calendar has. -/
def readDate (cs : List Char) : Option (Date × List Char) := do
  let (year, cs) ← readYear cs
  let (month, cs) ← readNumber 2 (← skipMark '-' cs)
  let (day, cs) ← readNumber 2 (← skipMark '-' cs)
  let date : Date := ⟨year, month, day⟩
  guard date.Exists
  return (date, cs)

/-- A time of day. -/
structure Clock where
  hour : Nat
  minute : Nat
  second : Nat
  /-- Nanoseconds after the start of the second. -/
  fraction : Nat

/-- The fraction of a second; digits after the ninth do not count. -/
def readFraction (cs : List Char) : Option (Nat × List Char) :=
  match cs with
  | '.' :: cs =>
    match takeDigits cs.length cs with
    | ([], _) => none
    | (digits, rest) =>
      let kept := digits.take 9
      some (ofDecimal kept * Nat.pow 10 (9 - kept.length), rest)
  | cs => some (0, cs)

/-- A time of day; second 60 is a leap second. -/
def readClock (cs : List Char) : Option (Clock × List Char) := do
  let (hour, cs) ← readNumber 2 cs
  let (minute, cs) ← readNumber 2 (← skipMark ':' cs)
  let (second, cs) ← readNumber 2 (← skipMark ':' cs)
  let (fraction, cs) ← readFraction cs
  guard (hour ≤ 23 ∧ minute ≤ 59 ∧ second ≤ 60)
  return (⟨hour, minute, second, fraction⟩, cs)

/-- Exactly two digits. -/
def readPair (cs : List Char) : Option (Nat × List Char) :=
  match cs with
  | a :: b :: rest =>
    if a.isDigit && b.isDigit then some (ofDecimal [a, b], rest) else none
  | _ => none

/-- Hours and minutes of an offset, in minutes; colons and blanks may stand between the two. -/
def readHoursMinutes (cs : List Char) : Option (Nat × List Char) := do
  let (hours, cs) ← readPair cs
  let (minutes, cs) ← readPair (cs.dropWhile fun c => c == ':' || isBlank c)
  guard (hours ≤ 23 ∧ minutes ≤ 59)
  return (60 * hours + minutes, cs)

/-- An offset from UTC in minutes: `Z`, `UTC` in any case, or a sign with hours and minutes. -/
def readOffset (cs : List Char) : Option (Int × List Char) :=
  match trimStart cs with
  | 'Z' :: rest | 'z' :: rest => some (0, rest)
  | '+' :: rest => readHoursMinutes rest |>.map fun (n, rest) => ((n : Int), rest)
  | '-' :: rest | '\u2212' :: rest =>
    readHoursMinutes rest |>.map fun (n, rest) => (-(n : Int), rest)
  | u :: t :: c :: rest =>
    if u.toLower = 'u' ∧ t.toLower = 't' ∧ c.toLower = 'c' then some (0, rest) else none
  | _ => none

namespace Instant

/-- The instant of a date and a time of day at an offset from UTC. -/
def ofClock? (date : Date) (clock : Clock) (offset : Int) : Option Instant :=
  let leap := clock.second = 60
  let second := if leap then 59 else clock.second
  let secondOfDay : Nat := 3600 * clock.hour + 60 * clock.minute + second
  of? (date.dayNumber * 86400 + secondOfDay - 60 * offset)
    (if leap then clock.fraction + 1000000000 else clock.fraction)

/-- The instant a text names. The date has to be within the years of the time scale both as
written and in UTC. -/
def read? (s : String) : Option Instant := do
  let (date, cs) ← readDate s.toList
  guard (-262143 ≤ date.year ∧ date.year ≤ 262142)
  let cs ← match cs with
    | 'T' :: cs | 't' :: cs | ' ' :: cs => some cs
    | _ => none
  let (clock, cs) ← readClock cs
  let (offset, cs) ← readOffset cs
  guard (trimStart cs).isEmpty
  ofClock? date clock offset

end Instant

end ObservationQuery
