import ObservationQuery.Json.Basic

/-!
# Records in JSON

A record is an object with known members, in any order, or an array of the same values in the order
in which the record lists its fields. An object may have other members, which do not count.

* `Json.fields?` — the values of the fields of a record, `none` for a field that is not there.
* `optional`, `defaulting`, `required` — how a field reads that may be absent or null, absent only,
  or neither.
* `Json.int64?`, `Json.uint64?`, `Json.int32?`, `Json.string?` and the like — the values of simple
  fields, and `Json.choice?` for one of several names.
* `Json.fits` — the values that can be kept whole before their meaning is known.

Reading has a depth: a record, an array or a tagged value that is read takes one level off it. A
member that does not count takes none.
-/

namespace ObservationQuery.Json

/-- The values of the fields called `names`. An object must not repeat one of them. -/
def fields? (names : List String) : Json → Option (List (Option Json))
  | .array items =>
    if items.length ≤ names.length then
      some (items.map some ++ List.replicate (names.length - items.length) none)
    else none
  | .object members =>
    if members.all (·.1.isSome) &&
        names.all (fun name => (members.filter (·.1 == some name)).length ≤ 1) then
      some (names.map fun name => (members.find? (·.1 == some name)).map (·.2))
    else none
  | _ => none

/-- A field that may be absent or null. -/
def optional {α : Type} (read : Json → Option α) : Option Json → Option (Option α)
  | none | some .null => some none
  | some value => (read value).map some

/-- A field that may be absent. -/
def defaulting {α : Type} (default : α) (read : Json → Option α) : Option Json → Option α
  | none => some default
  | some value => read value

/-- A field that has to be there. -/
def required {α : Type} (read : Json → Option α) : Option Json → Option α
  | none => none
  | some value => read value

/-- A truth value. -/
def bool? : Json → Option Bool
  | .bool b => some b
  | _ => none

/-- A string that has a value. -/
def string? : Json → Option String
  | .string s => s
  | _ => none

/-- A signed 64-bit integer. -/
def int64? : Json → Option Int64
  | .integer n =>
    if Int64.minValue.toInt ≤ n ∧ n ≤ Int64.maxValue.toInt then some (Int64.ofInt n) else none
  | _ => none

/-- An unsigned 64-bit integer. -/
def uint64? : Json → Option UInt64
  | .integer n => if 0 ≤ n ∧ n.toNat < UInt64.size then some (UInt64.ofNat n.toNat) else none
  | _ => none

/-- A signed 32-bit integer. -/
def int32? : Json → Option Int32
  | .integer n =>
    if Int32.minValue.toInt ≤ n ∧ n ≤ Int32.maxValue.toInt then some (Int32.ofInt n) else none
  | _ => none

/-- The items of an array. -/
def array? (depth : Nat) : Json → Option (List Json)
  | .array items => if 0 < depth then some items else none
  | _ => none

/-- One of several names: the name itself, or an object with the name as its only member and null as
its value. -/
def choice? (depth : Nat) : Json → Option String
  | .string s => s
  | .object [(some name, .null)] => if 0 < depth then some name else none
  | _ => none

/-- Whether a value of at most `depth` nested arrays and objects can be kept whole: its strings and
names have values and its numbers are finite. -/
def fits : Nat → Json → Bool
  | depth + 1, .array items => items.all (fits depth)
  | depth + 1, .object members =>
    members.all fun (name, value) => name.isSome && fits depth value
  | _, .array _ | _, .object _ => false
  | _, .string s => s.isSome
  | _, value => value.isFinite

theorem int64?_toInt (n : Int64) : int64? (.integer n.toInt) = some n := by
  simp only [int64?, if_pos (And.intro n.minValue_le_toInt n.toInt_le), Int64.ofInt_toInt]

theorem int32?_toInt (n : Int32) : int32? (.integer n.toInt) = some n := by
  simp only [int32?, if_pos (And.intro n.minValue_le_toInt n.toInt_le), Int32.ofInt_toInt]

theorem uint64?_toNat (n : UInt64) : uint64? (.integer n.toNat) = some n := by
  have h : (0 : Int) ≤ n.toNat ∧ n.toNat < UInt64.size := ⟨Int.natCast_nonneg _, n.toNat_lt⟩
  simp only [uint64?, Int.toNat_natCast, UInt64.ofNat_toNat, if_pos h]

end ObservationQuery.Json
