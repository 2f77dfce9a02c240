import ObservationQuery.Entity
import ObservationQuery.Instant.Basic
import ObservationQuery.SortedSet

/-!
# Filters

A filter describes which rows of one entity a query returns. A criterion that is absent (`none`,
an empty set, `false`) constrains nothing. Filters refer to filters on linked entities, so a filter
on observations may reach the systems that produced them.

* `TimeFilter`, `SpatialFilter`, `TextFilter` — the criteria on time, place and description.
* `Linked` — a reference to a linked entity: bare identifiers, or a filter on the entity.
* `ObservationFilter`, `StatisticsFilter`, `DataStreamFilter`, `FeatureFilter`, `SystemFilter`,
  `CommandStreamFilter`, `CommandFilter` — one filter per entity.
* `Filter` — a filter of any entity, with its `entity` and its row `limit`.
* `LinkIds`, `Linkable.idsOnly?` — the identifiers of a filter that holds nothing else.
-/

namespace ObservationQuery

/-! ## Criteria -/

/-- How a stored validity period has to relate to the interval of a filter. -/
inductive PeriodRelation where
  /-- The stored period contains the interval. -/
  | contains
  /-- The stored period and the interval overlap. -/
  | intersects
  /-- The stored period is the interval. -/
  | equals
  deriving DecidableEq, Repr

/-- A criterion on a time: the most recent value of each series, or a closed interval. The relation
matters for validity periods only; a single time always has to lie inside. -/
inductive TimeFilter where
  | latest
  | range (first last : Instant) (relation : PeriodRelation)
  deriving DecidableEq, Repr

namespace TimeFilter

/-- The closed interval from `first` to `last`, for overlapping periods. -/
def between (first last : Instant) : TimeFilter := .range first last .intersects

/-- The interval of one instant. -/
def moment (t : Instant) : TimeFilter := between t t

/-- The same interval under another relation; `latest` has none. -/
def withRelation (relation : PeriodRelation) : TimeFilter → TimeFilter
  | range first last _ => range first last relation
  | latest => latest

/-- Whether only the most recent values are asked for. -/
def isLatest : TimeFilter → Bool
  | latest => true
  | range .. => false

end TimeFilter

/-- How a stored geometry has to relate to the geometry of a filter. -/
inductive SpatialRelation where
  | intersects
  /-- The stored geometry contains the one of the filter. -/
  | contains
  /-- The stored geometry lies within the one of the filter. -/
  | within
  deriving DecidableEq, Repr

/-- The reference system of geometries that name none, WGS 84. -/
def defaultSrid : Int32 := 4326

/-- A criterion on a place: a geometry in well-known text, its reference system and a relation. -/
structure SpatialFilter where
  wkt : String
  srid : Int32
  relation : SpatialRelation
  deriving DecidableEq, Repr

namespace SpatialFilter

/-- Geometries that intersect `wkt`. -/
def intersects (wkt : String) : SpatialFilter := ⟨wkt, defaultSrid, .intersects⟩

/-- Geometries within `wkt`. -/
def within (wkt : String) : SpatialFilter := ⟨wkt, defaultSrid, .within⟩

end SpatialFilter

/-- A search for any of some keywords in a description. -/
structure TextFilter where
  keywords : List String
  deriving DecidableEq, Repr

/-- A reference to a linked entity: its internal identifiers, or a filter on it. -/
inductive Linked (F : Type) where
  | ids (ids : IdSet)
  | filter (filter : F)
  deriving DecidableEq, Repr

/-- The identifier that stands for "no feature of interest". -/
def noFeature : Int64 := 0

/-! ## Filters by entity -/

mutual

/-- Selects observations. -/
structure ObservationFilter where
  /-- The data streams that hold the observations. -/
  dataStream : Option (Linked DataStreamFilter) := none
  /-- The observed features. -/
  foi : Option (Linked FeatureFilter) := none
  phenomenonTime : Option TimeFilter := none
  resultTime : Option TimeFilter := none
  limit : Option UInt64 := none

/-- Selects data streams. -/
structure DataStreamFilter where
  internalIds : IdSet := ∅
  /-- The producing systems. -/
  system : Option (Linked SystemFilter) := none
  fullText : Option TextFilter := none
  validTime : Option TimeFilter := none
  outputNames : NameSet := ∅
  /-- Property URIs, looked for anywhere in the description of the stream. -/
  observedProperties : NameSet := ∅
  observations : Option ObservationFilter := none
  limit : Option UInt64 := none

/-- Selects features of interest. -/
structure FeatureFilter where
  internalIds : IdSet := ∅
  /-- Unique identifiers, in which `*` stands for any text. -/
  uniqueIds : NameSet := ∅
  parent : Option (Linked FeatureFilter) := none
  observations : Option ObservationFilter := none
  location : Option SpatialFilter := none
  sampledFeature : Option FeatureFilter := none
  fullText : Option TextFilter := none
  validTime : Option TimeFilter := none
  limit : Option UInt64 := none

/-- Selects systems. -/
structure SystemFilter where
  internalIds : IdSet := ∅
  /-- Unique identifiers, in which `*` stands for any text. -/
  uniqueIds : NameSet := ∅
  /-- Whether members of the systems selected by internal identifier are selected too. -/
  includeMembers : Bool := false
  parent : Option (Linked SystemFilter) := none
  procedure : Option SystemFilter := none
  dataStreams : Option DataStreamFilter := none
  fullText : Option TextFilter := none
  location : Option SpatialFilter := none
  validTime : Option TimeFilter := none
  limit : Option UInt64 := none

end

/-- Selects the observations of at most one data stream and one feature, for statistics. -/
structure StatisticsFilter where
  observations : ObservationFilter := {}
  dataStreamId : Option Int64 := none
  foiId : Option Int64 := none
  limit : Option UInt64 := none

mutual

/-- Selects command streams, the control inputs of systems. -/
structure CommandStreamFilter where
  internalIds : IdSet := ∅
  /-- The receiving systems. -/
  system : Option (Linked SystemFilter) := none
  fullText : Option TextFilter := none
  validTime : Option TimeFilter := none
  controlInputNames : NameSet := ∅
  /-- Property URIs, looked for anywhere in the description of the stream. -/
  taskableProperties : NameSet := ∅
  /-- Streams with a matching command only. -/
  commands : Option CommandFilter := none
  limit : Option UInt64 := none

/-- Selects commands. -/
structure CommandFilter where
  internalIds : IdSet := ∅
  commandStream : Option (Linked CommandStreamFilter) := none
  senderIds : NameSet := ∅
  /-- The addressed features; `noFeature` stands for commands addressed to none. -/
  foiIds : IdSet := ∅
  issueTime : Option TimeFilter := none
  limit : Option UInt64 := none

end

/-- A filter of any entity. -/
inductive Filter where
  | observation (filter : ObservationFilter)
  | observationStatistics (filter : StatisticsFilter)
  | dataStream (filter : DataStreamFilter)
  | featureOfInterest (filter : FeatureFilter)
  | system (filter : SystemFilter)
  | commandStream (filter : CommandStreamFilter)
  | command (filter : CommandFilter)

namespace Filter

/-- The entity the filter selects. -/
def entity : Filter → Entity
  | observation _ => .observation
  | observationStatistics _ => .observationStatistics
  | dataStream _ => .dataStream
  | featureOfInterest _ => .featureOfInterest
  | system _ => .system
  | commandStream _ => .commandStream
  | command _ => .command

/-- The filter without criteria. -/
def unrestricted : Entity → Filter
  | .observation => observation {}
  | .observationStatistics => observationStatistics {}
  | .dataStream => dataStream {}
  | .featureOfInterest => featureOfInterest {}
  | .system => system {}
  | .commandStream => commandStream {}
  | .command => command {}

theorem entity_unrestricted (e : Entity) : (unrestricted e).entity = e := by cases e <;> rfl

/-- The largest number of rows wanted; statistics fall back to the limit of their observations. -/
def limit : Filter → Option UInt64
  | observation f => f.limit
  | observationStatistics f => f.limit <|> f.observations.limit
  | dataStream f => f.limit
  | featureOfInterest f => f.limit
  | system f => f.limit
  | commandStream f => f.limit
  | command f => f.limit

end Filter

/-! ## Filters that only name identifiers -/

/-- Identifiers of a linked entity. -/
structure LinkIds where
  internalIds : IdSet
  uniqueIds : NameSet
  deriving DecidableEq, Repr

/-- A filter that can stand at the far end of a reference. -/
class Linkable (F : Type) where
  /-- The identifiers, if the filter holds nothing else but a limit. -/
  idsOnly? : F → Option LinkIds

export Linkable (idsOnly?)

instance : Linkable DataStreamFilter where
  idsOnly? f :=
    if f.system.isNone && f.fullText.isNone && f.validTime.isNone && f.outputNames.isEmpty &&
        f.observedProperties.isEmpty && f.observations.isNone then
      some ⟨f.internalIds, ∅⟩
    else none

/-- Unique identifiers are stored with the feature, so a reference cannot be followed by them. -/
instance : Linkable FeatureFilter where
  idsOnly? f :=
    if f.uniqueIds.isEmpty && f.parent.isNone && f.observations.isNone && f.location.isNone &&
        f.sampledFeature.isNone && f.fullText.isNone && f.validTime.isNone then
      some ⟨f.internalIds, f.uniqueIds⟩
    else none

/-- A stream holds both the internal and the unique identifier of its system. -/
instance : Linkable SystemFilter where
  idsOnly? f :=
    if !f.includeMembers && f.parent.isNone && f.procedure.isNone && f.dataStreams.isNone &&
        f.fullText.isNone && f.location.isNone && f.validTime.isNone then
      some ⟨f.internalIds, f.uniqueIds⟩
    else none

instance : Linkable CommandStreamFilter where
  idsOnly? f :=
    if f.system.isNone && f.fullText.isNone && f.validTime.isNone && f.controlInputNames.isEmpty &&
        f.taskableProperties.isEmpty && f.commands.isNone then
      some ⟨f.internalIds, ∅⟩
    else none

end ObservationQuery
