import ObservationQuery.Text.Decimal

/-!
# The range of doubles

A double has 53 significant bits and is below 2¹⁰²⁴. Numbers are only ever asked whether they are
in this range, so the arithmetic is that of natural numbers.

* `Double.round` — a natural number with at most 53 significant bits; a tie goes to the even
  neighbour.
* `Double.isFinite` — whether the double nearest to a decimal is finite.
* `Double.mul?` — the product of two doubles, where it is finite.
-/

namespace ObservationQuery.Double

/-- The bound of the doubles. -/
def bound : Nat := Nat.pow 2 1024

/-- The nearest number with at most 53 significant bits. Of two such numbers equally near it is the
one whose last significant bit is zero. -/
def round (n : Nat) : Nat :=
  let unit := Nat.pow 2 (n.log2 - 52)
  let quotient := n / unit
  let twice := 2 * (n % unit)
  if unit < twice ∨ (twice = unit ∧ quotient % 2 = 1) then (quotient + 1) * unit
  else quotient * unit

/-- Whether the double nearest to `magnitude * 10 ^ exponent` is finite: from 2¹⁰²⁴ - 2⁹⁷⁰ on it is
not. The first two cases only keep the powers of ten small. -/
def isFinite (magnitude : Nat) (exponent : Int) : Bool :=
  let digits : Int := (Text.decimal magnitude).length
  if magnitude = 0 ∨ digits + exponent < 308 then true
  else if 310 < digits + exponent then false
  else
    let limit := bound - Nat.pow 2 970
    if 0 ≤ exponent then magnitude * Nat.pow 10 exponent.toNat < limit
    else magnitude < limit * Nat.pow 10 (-exponent).toNat

/-- The product of two doubles, where it is finite. -/
def mul? (a b : Nat) : Option Nat :=
  let product := round (a * b)
  if product < bound then some product else none

/-- A number of at most 53 bits is a double. -/
theorem round_of_lt {n : Nat} (h : n < Nat.pow 2 53) : round n = n := by
  have hlog : n.log2 - 52 = 0 := by
    rcases Nat.eq_zero_or_pos n with rfl | hn
    · rfl
    · have := (Nat.log2_lt (Nat.ne_of_gt hn)).mpr h
      omega
  simp [round, hlog, Nat.mod_one]

/-- Rounding moves a number by at most half a unit of its last significant bit. -/
theorem round_near (n : Nat) :
    2 * round n ≤ 2 * n + Nat.pow 2 (n.log2 - 52) ∧
      2 * n ≤ 2 * round n + Nat.pow 2 (n.log2 - 52) := by
  have hdiv := Nat.div_add_mod n (Nat.pow 2 (n.log2 - 52))
  have hlt : n % Nat.pow 2 (n.log2 - 52) < Nat.pow 2 (n.log2 - 52) :=
    Nat.mod_lt n (Nat.pow_pos (by decide))
  simp only [round]
  generalize Nat.pow 2 (n.log2 - 52) = unit at *
  have hcomm : n / unit * unit = unit * (n / unit) := Nat.mul_comm ..
  have hsucc : (n / unit + 1) * unit = unit * (n / unit) + unit := by
    rw [Nat.add_mul, Nat.one_mul, hcomm]
  split <;> rename_i h
  · rw [hsucc]; omega
  · rw [hcomm]; omega

end ObservationQuery.Double
