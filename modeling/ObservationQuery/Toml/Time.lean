import ObservationQuery.Calendar
import ObservationQuery.Text.Decimal

/-!
# TOML times

* `Toml.isTime` — the texts that are a date, a time of day, or both, with an offset or without.
* `Toml.isDate` — a date, after which a blank may stand for the `T` before a time of day.
* `Toml.isClock`, `Toml.isOffset` — the other parts of a time.
-/

namespace ObservationQuery.Toml

open Text (ofDecimal)

/-- Whether a text is a date. -/
def isDate (cs : List Char) : Bool :=
  match cs with
  | [y1, y2, y3, y4, '-', m1, m2, '-', d1, d2] =>
    [y1, y2, y3, y4, m1, m2, d1, d2].all Char.isDigit &&
      decide (Date.Exists ⟨ofDecimal [y1, y2, y3, y4], ofDecimal [m1, m2], ofDecimal [d1, d2]⟩)
  | _ => false

/-- Whether two characters are a number of at most `limit`. -/
def isPair (limit : Nat) (a b : Char) : Bool := a.isDigit && b.isDigit && ofDecimal [a, b] ≤ limit

/-- Whether a text is a time of day: seconds, and a fraction after them, may be left out. -/
def isClock (cs : List Char) : Bool :=
  match cs with
  | h1 :: h2 :: ':' :: m1 :: m2 :: rest =>
    isPair 23 h1 h2 && isPair 59 m1 m2 &&
      match rest with
      | [] => true
      | ':' :: s1 :: s2 :: rest =>
        isPair 60 s1 s2 &&
          match rest with
          | [] => true
          | '.' :: digits => !digits.isEmpty && digits.all Char.isDigit
          | _ => false
      | _ => false
  | _ => false

/-- Whether a text is an offset from UTC. -/
def isOffset (cs : List Char) : Bool :=
  match cs with
  | ['Z'] | ['z'] => true
  | [sign, h1, h2, ':', m1, m2] =>
    (sign == '+' || sign == '-') && isPair 23 h1 h2 && isPair 59 m1 m2
  | _ => false

/-- Whether a text is a date, a time of day, or both, with an offset or without. -/
def isTime (cs : List Char) : Bool :=
  isDate cs || isClock cs ||
    (isDate (cs.take 10) &&
      match cs.drop 10 with
      | separator :: rest =>
        let clock := rest.takeWhile fun c => c.isDigit || c == ':' || c == '.'
        let offset := rest.drop clock.length
        (separator == 'T' || separator == 't' || separator == ' ') && isClock clock &&
          (offset.isEmpty || isOffset offset)
      | [] => false)

end ObservationQuery.Toml
