/-!
# Decimal numerals

* `decimal` — the shortest numeral of a natural number; `ofDecimal_decimal` reads it back.
* `padded` — the same, led by zeros up to a width; `ofDecimal_padded` reads it back.
* `signed` — the numeral of an integer, with a minus sign for a negative one.
* `takeDigits` — the digits a text begins with, at most a given number of them.
-/

namespace ObservationQuery.Text

/-- The numeral of a natural number. -/
def decimal (n : Nat) : List Char := Nat.toDigits 10 n

/-- The number a run of digits stands for. -/
def ofDecimal (digits : List Char) : Nat := Nat.ofDigitChars 10 digits 0

/-- The numeral of a natural number, led by zeros up to `width` digits. -/
def padded (width n : Nat) : List Char :=
  List.replicate (width - (decimal n).length) '0' ++ decimal n

/-- The numeral of an integer. -/
def signed (n : Int) : List Char :=
  if n < 0 then '-' :: decimal n.natAbs else decimal n.natAbs

/-- The digits a text begins with, at most `limit` of them, and the text after them. -/
def takeDigits (limit : Nat) (cs : List Char) : List Char × List Char :=
  let digits := (cs.take limit).takeWhile Char.isDigit
  (digits, cs.drop digits.length)

theorem ofDecimal_decimal (n : Nat) : ofDecimal (decimal n) = n :=
  Nat.ofDigitChars_toDigits (by decide) (by decide)

theorem isDigit_of_mem_decimal {n : Nat} {c : Char} (h : c ∈ decimal n) : c.isDigit = true :=
  Nat.isDigit_of_mem_toDigits (by decide) (by decide) h

theorem decimal_ne_nil (n : Nat) : decimal n ≠ [] := Nat.toDigits_ne_nil

theorem ofDecimal_padded (width n : Nat) : ofDecimal (padded width n) = n := by
  have h : ∀ k (ds : List Char), ofDecimal (List.replicate k '0' ++ ds) = ofDecimal ds := by
    intro k ds
    induction k with
    | zero => rfl
    | succ k ih => rw [List.replicate_succ, List.cons_append, ← ih]; rfl
  rw [padded, h, ofDecimal_decimal]

theorem isDigit_of_mem_padded {width n : Nat} {c : Char} (h : c ∈ padded width n) :
    c.isDigit = true := by
  rcases List.mem_append.mp h with h | h
  · rw [List.eq_of_mem_replicate h]; decide
  · exact isDigit_of_mem_decimal h

/-- A run of digits is taken whole when the text after it does not begin with a digit. -/
theorem takeDigits_append {limit : Nat} {ds rest : List Char} (hds : ∀ c ∈ ds, c.isDigit = true)
    (hlen : ds.length ≤ limit) (hrest : ∀ c r, rest = c :: r → c.isDigit = false) :
    takeDigits limit (ds ++ rest) = (ds, rest) := by
  have hstop : (rest.take (limit - ds.length)).takeWhile Char.isDigit = [] := by
    cases rest with
    | nil => simp
    | cons c r =>
      cases h : limit - ds.length with
      | zero => simp
      | succ k => simp [hrest c r rfl]
  have htake : (ds ++ rest).take limit = ds ++ rest.take (limit - ds.length) := by
    rw [List.take_append, List.take_of_length_le hlen]
  simp only [takeDigits, htake, List.takeWhile_append_of_pos hds, hstop, List.append_nil,
    List.drop_left]

end ObservationQuery.Text
