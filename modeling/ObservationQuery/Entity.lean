/-!
# The entities of an observation store

* `Entity` — the kinds of rows a query can select.
* `Entity.name` — the name used in messages; `Entity.code` — the identifier used in documents.
* `Entity.stored` — the entities with a table of their own, in the order in which tables are
  listed and checked.
-/

namespace ObservationQuery

/-- The kinds of rows a query can select. -/
inductive Entity where
  | observation
  | observationStatistics
  | dataStream
  | featureOfInterest
  | system
  | commandStream
  | command
  deriving DecidableEq, Repr

namespace Entity

/-- The name of the entity in messages. -/
def name : Entity → String
  | observation => "obs"
  | observationStatistics => "obs stats"
  | dataStream => "datastream"
  | featureOfInterest => "foi"
  | system => "system"
  | commandStream => "command stream"
  | command => "command"

/-- The identifier of the entity in documents. -/
def code : Entity → String
  | observation => "observation"
  | observationStatistics => "observation_statistics"
  | dataStream => "data_stream"
  | featureOfInterest => "feature_of_interest"
  | system => "system"
  | commandStream => "command_stream"
  | command => "command"

/-- All entities. -/
def all : List Entity :=
  [observation, observationStatistics, dataStream, featureOfInterest, system, commandStream,
    command]

/-- The entities with a table of their own; statistics are computed from observations. -/
def stored : List Entity :=
  [observation, dataStream, featureOfInterest, system, commandStream, command]

/-- The entity of an identifier. -/
def ofCode? (code : String) : Option Entity := all.find? (·.code == code)

theorem mem_all (e : Entity) : e ∈ all := by cases e <;> decide

theorem ofCode?_code (e : Entity) : ofCode? e.code = some e := by cases e <;> decide

end Entity

end ObservationQuery
