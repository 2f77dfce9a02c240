import ObservationQuery.Json.Printer
import ObservationQuery.Json.Record
import ObservationQuery.Tables.Basic

/-!
# Tables from and to JSON

* `Tables.ofJson?` — tables from a record; a field that is not there keeps its standard value, and
  a null field stands for an entity that is not stored.
* `Tables.toJson` — the record with all fields.
-/

namespace ObservationQuery.Tables

open Json (defaulting nullable objectOf optional)

/-- The name of a table, or null. -/
def nameOfJson? (json : Json) : Option (Option String) := optional Json.string? (some json)

/-- The tables that a record describes. -/
def ofJson? (json : Json) : Option Tables :=
  match json.fields? keys with
  | some [observation, dataStream, featureOfInterest, system, commandStream, command] => do
    return {
      observation := ← defaulting standard.observation nameOfJson? observation
      dataStream := ← defaulting standard.dataStream nameOfJson? dataStream
      featureOfInterest := ← defaulting standard.featureOfInterest nameOfJson? featureOfInterest
      system := ← defaulting standard.system nameOfJson? system
      commandStream := ← defaulting standard.commandStream nameOfJson? commandStream
      command := ← defaulting standard.command nameOfJson? command }
  | _ => none

/-- The record of the tables. -/
def toJson (tables : Tables) : Json :=
  objectOf ((keys.zip Entity.stored).map fun (key, entity) =>
    (key, nullable Json.text (tables.table? entity)))

end ObservationQuery.Tables
