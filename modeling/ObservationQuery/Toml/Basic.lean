import ObservationQuery.Toml.Numeral

/-!
# TOML documents

The tables of a document, with what later lines of the document may still add to them.

* `Toml.Value` — a value. Of truth values and times only the presence is kept.
* `Toml.Value.isReadable` — whether all numbers in a value have a value of their own.
* `Toml.Origin` — how a table was defined, which decides how it can be extended.
* `Toml.Entries.insert?` — a key and its value in a table.
* `Toml.Entries.openTable?`, `Toml.Entries.openElement?` — a header and a header of a list of
  tables.

A key is never defined twice, a table is never opened twice, a table between braces is never
extended, and a dotted key extends no table that a header has defined.
-/

namespace ObservationQuery.Toml

/-- How a table was defined. -/
inductive Origin where
  /-- By a header of its own; the document itself counts as such. -/
  | header
  /-- As a table on the way to one with a header. -/
  | implied
  /-- As a table on the way to a dotted key. -/
  | dotted
  /-- Between braces. -/
  | inline
  deriving DecidableEq, Repr

/-- A TOML value. -/
inductive Value where
  | string (s : String)
  | number (n : Numeral)
  | boolean
  | time
  | array (items : List Value)
  /-- Tables under headers of one name; the last one is open. -/
  | tables (items : List (List (String × Value)))
  | table (origin : Origin) (entries : List (String × Value))
  deriving Inhabited, Repr

/-- The keys of a table with their values. -/
abbrev Entries := List (String × Value)

mutual

/-- Whether all numbers in a value have a value of their own. -/
def Value.isReadable : Value → Bool
  | .number n => n.hasValue
  | .array items => allReadable items
  | .tables items => allTablesReadable items
  | .table _ entries => entriesReadable entries
  | .string _ | .boolean | .time => true

/-- Whether all values are readable. -/
def allReadable : List Value → Bool
  | [] => true
  | item :: items => item.isReadable && allReadable items

/-- Whether the values of all keys are readable. -/
def entriesReadable : List (String × Value) → Bool
  | [] => true
  | (_, value) :: entries => value.isReadable && entriesReadable entries

/-- Whether the values of all keys of all tables are readable. -/
def allTablesReadable : List (List (String × Value)) → Bool
  | [] => true
  | entries :: items => entriesReadable entries && allTablesReadable items

end

namespace Entries

/-- The entries with `value` in place of the value of `key`. -/
def replace (key : String) (value : Value) (entries : Entries) : Entries :=
  entries.map fun (k, v) => if k = key then (k, value) else (k, v)

/-- Changes the table at the end of a path. A table on the way that is not there yet gets the origin
`way`. -/
def change? (way : Origin) (f : Origin → Entries → Option (Origin × Entries)) :
    List String → Origin → Entries → Option (Origin × Entries)
  | [], origin, entries => f origin entries
  | key :: path, origin, entries =>
    match entries.lookup key with
    | none => do
      let (o, es) ← change? way f path way []
      return (origin, entries ++ [(key, .table o es)])
    | some (.table o es) =>
      if o = .inline ∨ (way = .dotted ∧ o = .header) then none
      else do
        let (o, es) ← change? way f path o es
        return (origin, replace key (.table o es) entries)
    | some (.tables items) => do
      let (_, es) ← change? way f path .header (← items.getLast?)
      return (origin, replace key (.tables (items.dropLast ++ [es])) entries)
    | some _ => none

/-- Adds a key that is not there yet. A table is extended either by dotted keys or by plain ones. -/
def add? (isDotted : Bool) (key : String) (value : Value) (origin : Origin) (entries : Entries) :
    Option (Origin × Entries) :=
  if (origin == .dotted) != isDotted || (entries.lookup key).isSome then none
  else some (origin, entries ++ [(key, value)])

/-- Adds a value under a dotted key, which consists of a path and a last part. -/
def insert? (path : List String) (key : String) (value : Value) (origin : Origin)
    (entries : Entries) : Option (Origin × Entries) :=
  change? .dotted (add? (!path.isEmpty) key value) path origin entries

/-- Opens the table of a header; it must not have been defined but as a table on the way. -/
def openTable? (path : List String) (key : String) (entries : Entries) : Option Entries :=
  (change? .implied define path .header entries).map (·.2)
where
  define (origin : Origin) (entries : Entries) : Option (Origin × Entries) :=
    match entries.lookup key with
    | none => some (origin, entries ++ [(key, .table .header [])])
    | some (.table .implied es) => some (origin, replace key (.table .header es) entries)
    | some _ => none

/-- Opens one more table under the header of a list of tables. -/
def openElement? (path : List String) (key : String) (entries : Entries) : Option Entries :=
  (change? .implied define path .header entries).map (·.2)
where
  define (origin : Origin) (entries : Entries) : Option (Origin × Entries) :=
    match entries.lookup key with
    | none => some (origin, entries ++ [(key, .tables [[]])])
    | some (.tables items) => some (origin, replace key (.tables (items ++ [[]])) entries)
    | some _ => none

/-- Adds a value under a dotted key to the table that `header` has opened. -/
def insertUnder? (header path : List String) (key : String) (value : Value) (entries : Entries) :
    Option Entries :=
  (change? .implied (insert? path key value) header .header entries).map (·.2)

end Entries

end ObservationQuery.Toml
