import ObservationQuery.Double

/-!
# JSON values

* `Json` — a value as a document spells it: an object keeps the order and the repetitions of its
  members, and a number keeps whether it was written with a fraction or an exponent.
* `Json.isFinite` — the numbers with a finite value.
* `Json.member?` — the last member of a name.
-/

namespace ObservationQuery

/-- A JSON value. A string is `none` when it holds an unpaired surrogate escape, which leaves it
without a value. -/
inductive Json where
  | null
  | bool (b : Bool)
  | integer (n : Int)
  /-- `significand * 10 ^ exponent`, for a number that is not written as an integer; `-0` is one. -/
  | decimal (significand exponent : Int)
  | string (s : Option String)
  | array (items : List Json)
  | object (members : List (Option String × Json))
  deriving Inhabited, Repr

namespace Json

/-- The string `s`. -/
def text (s : String) : Json := .string (some s)

/-- The array of the results of `f`. -/
def arrayOf {α : Type} (f : α → Json) (l : List α) : Json := .array (l.map f)

/-- The object with these members. -/
def objectOf (members : List (String × Json)) : Json :=
  .object (members.map fun (name, value) => (some name, value))

/-- The value, or `null` where there is none. -/
def nullable {α : Type} (f : α → Json) : Option α → Json
  | none => .null
  | some a => f a

/-- The value of the last member of a name. -/
def member? (name : String) : Json → Option Json
  | .object members => (members.reverse.find? (·.1 == some name)).map (·.2)
  | _ => none

/-- The digits a number begins with, as many of them as 64 bits hold, and the count of the digits
after them. -/
def leadingDigits (n : Nat) : Nat × Nat :=
  let count := (Text.decimal n).length - 20
  let head := n / Nat.pow 10 count
  if head < UInt64.size then (head, count) else (head / 10, count + 1)

/-- Whether `magnitude * 10 ^ exponent` has a finite value. The value is the product of two doubles,
one of the digits it begins with and one of the power of ten after them. -/
def isFiniteDecimal (magnitude : Nat) (exponent : Int) : Bool :=
  let (head, count) := leadingDigits magnitude
  let exponent := exponent + count
  if head = 0 ∨ exponent < 0 then true
  else if 308 < exponent then false
  else (Double.mul? (Double.round head) (Double.round (Nat.pow 10 exponent.toNat))).isSome

/-- Whether the value is no number, or a number with a finite value. -/
def isFinite : Json → Bool
  | .integer n => isFiniteDecimal n.natAbs 0
  | .decimal significand exponent => isFiniteDecimal significand.natAbs exponent
  | _ => true

end Json

end ObservationQuery
