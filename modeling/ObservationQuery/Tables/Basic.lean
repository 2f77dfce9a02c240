import ObservationQuery.Entity

/-!
# Tables

Which tables hold the rows of which entities. An entity without a table is not stored.

* `Tables` — a table name for each stored entity; `Tables.standard` has observations only.
* `Tables.table?` — the table of an entity; statistics are computed from observations.
* `Tables.entries` — the tables that are there, in the order of `Entity.stored`.
* `isTableName` — a table name is an identifier, or two of them joined by a dot.
* `Tables.invalidEntry?` — the first table whose name is no table name.
-/

namespace ObservationQuery

/-- The name of the table of each stored entity. -/
structure Tables where
  observation : Option String := none
  dataStream : Option String := none
  featureOfInterest : Option String := none
  system : Option String := none
  commandStream : Option String := none
  command : Option String := none
  deriving DecidableEq, Repr

/-- Whether a text is an identifier: an ASCII letter or an underscore, then ASCII letters, digits
and underscores. -/
def isIdentifier : List Char → Bool
  | [] => false
  | c :: cs => (c.isAlpha || c == '_') && cs.all fun c => c.isAlphanum || c == '_'

/-- Whether a text is the name of a table: an identifier, or two of them joined by a dot. -/
def isTableName (name : String) : Bool :=
  let cs := name.toList
  match cs.dropWhile (· != '.') with
  | [] => isIdentifier cs
  | _ :: rest => isIdentifier (cs.takeWhile (· != '.')) && isIdentifier rest

namespace Tables

/-- No tables at all. -/
def empty : Tables := {}

/-- The tables of a deployment that names none: observations only. -/
def standard : Tables := { observation := some "obs" }

/-- The table of an entity, where there is one. -/
def table? (tables : Tables) : Entity → Option String
  | .observation | .observationStatistics => tables.observation
  | .dataStream => tables.dataStream
  | .featureOfInterest => tables.featureOfInterest
  | .system => tables.system
  | .commandStream => tables.commandStream
  | .command => tables.command

/-- The same tables but for one entity. -/
def set (tables : Tables) (entity : Entity) (table : Option String) : Tables :=
  match entity with
  | .observation | .observationStatistics => { tables with observation := table }
  | .dataStream => { tables with dataStream := table }
  | .featureOfInterest => { tables with featureOfInterest := table }
  | .system => { tables with system := table }
  | .commandStream => { tables with commandStream := table }
  | .command => { tables with command := table }

theorem table?_set (tables : Tables) (entity : Entity) (table : Option String) :
    (tables.set entity table).table? entity = table := by
  cases entity <;> rfl

/-- The entities that have a table, with it. -/
def entries (tables : Tables) : List (Entity × String) :=
  Entity.stored.filterMap fun entity => (tables.table? entity).map (entity, ·)

/-- The first entry whose name is no table name. -/
def invalidEntry? (tables : Tables) : Option (Entity × String) :=
  tables.entries.find? fun (_, name) => !isTableName name

/-- The keys of the stored entities in a configuration, in the order of `Entity.stored`. -/
def keys : List String := ["obs", "datastream", "foi", "system", "commandstream", "command"]

/-- The stored entity of a key. -/
def entityOfKey? (key : String) : Option Entity := (keys.zip Entity.stored).lookup key

end Tables

end ObservationQuery
