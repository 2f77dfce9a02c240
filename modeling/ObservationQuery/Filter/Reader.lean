import ObservationQuery.Filter.Basic
import ObservationQuery.Instant.Reader
import ObservationQuery.Json.Reader
import ObservationQuery.Json.Record

/-!
# Filters from JSON

A filter is a record with its criteria as fields, in camel case. At most 127 arrays, records and
tagged values may be nested.

* `Filter.ofJson?`, `Filter.read?` — the filter of an entity that a value or a text describes.
* `ObservationFilter.ofJson?` and its companions — the filter of one entity. Their first argument is
  the depth that is left.
-/

namespace ObservationQuery

open Json (fields? optional defaulting required)

/-! ## Simple values -/

/-- A set of internal identifiers. -/
def IdSet.ofJson? (depth : Nat) (json : Json) : Option IdSet := do
  return .ofList (← (← json.array? depth).mapM Json.int64?)

/-- A set of names. -/
def NameSet.ofJson? (depth : Nat) (json : Json) : Option NameSet := do
  return .ofList (← (← json.array? depth).mapM Json.string?)

/-- An instant. -/
def Instant.ofJson? (json : Json) : Option Instant := do
  Instant.read? (← json.string?)

/-- The relation of a name. -/
def PeriodRelation.ofName? : String → Option PeriodRelation
  | "contains" => some .contains
  | "intersects" => some .intersects
  | "equals" => some .equals
  | _ => none

/-- The relation of a name. -/
def SpatialRelation.ofName? : String → Option SpatialRelation
  | "intersects" => some .intersects
  | "contains" => some .contains
  | "within" => some .within
  | _ => none

/-- A spatial relation. -/
def SpatialRelation.ofJson? (depth : Nat) (json : Json) : Option SpatialRelation := do
  ofName? (← json.choice? depth)

/-- A period relation; beside its name there may also be an empty object in place of null. -/
def PeriodRelation.ofJson? : Json → Option PeriodRelation
  | .object [(some name, .object [])] => ofName? name
  | json => do ofName? (← json.choice? 1)

/-- A place: `wkt`, and optionally `srid` and `op`. -/
def SpatialFilter.ofJson? (depth : Nat) (json : Json) : Option SpatialFilter :=
  match depth with
  | 0 => none
  | depth + 1 =>
    match json.fields? ["wkt", "srid", "op"] with
    | some [wkt, srid, op] => do
      return {
        wkt := ← required Json.string? wkt
        srid := ← defaulting defaultSrid Json.int32? srid
        relation := ← defaulting .intersects (SpatialRelation.ofJson? depth) op }
    | _ => none

/-- Keywords: the field `keywords`. -/
def TextFilter.ofJson? (depth : Nat) (json : Json) : Option TextFilter :=
  match depth with
  | 0 => none
  | depth + 1 =>
    match json.fields? ["keywords"] with
    | some [keywords] => do
      let items ← required (Json.array? depth) keywords
      return ⟨← items.mapM Json.string?⟩
    | _ => none

namespace TimeFilter

/-- The interval whose ends and relation are the fields of a record. -/
def rangeOfJson? (json : Json) : Option TimeFilter :=
  match json.fields? ["min", "max", "op"] with
  | some [first, last, op] => do
    return .range (← required Instant.ofJson? first) (← required Instant.ofJson? last)
      (← defaulting .intersects PeriodRelation.ofJson? op)
  | _ => none

/-- The criterion of a kind. `contents` holds what stands beside the kind. -/
def ofKind? (kind : String) (contents : Json) : Option TimeFilter :=
  match kind, contents with
  | "latest", .object _ | "latest", .array [] => some .latest
  | "range", contents => rangeOfJson? contents
  | _, _ => none

/-- A criterion on a time: an object whose member `type` is its kind, or an array that begins with
the kind. What stands beside the kind is kept whole until the kind is known. -/
def ofJson? (depth : Nat) : Json → Option TimeFilter
  | .object members =>
    match depth, members.partition (·.1 == some "type") with
    | depth + 1, ([(_, .string (some kind))], others) =>
      if others.all (fun (name, value) => name.isSome && value.fits depth) then
        ofKind? kind (.object others)
      else none
    | _, _ => none
  | .array (.string (some kind) :: items) =>
    match depth with
    | depth + 1 => if items.all (Json.fits depth) then ofKind? kind (.array items) else none
    | 0 => none
  | _ => none

end TimeFilter

/-- A reference: an object with one member, `ids` or `filter`. -/
def Linked.ofJson? {F : Type} (ids : Json → Option IdSet) (filter : Json → Option F) :
    Json → Option (Linked F)
  | .object [(some "ids", value)] => (ids value).map .ids
  | .object [(some "filter", value)] => (filter value).map .filter
  | _ => none

/-! ## Filters -/

mutual

/-- A filter on observations. -/
def ObservationFilter.ofJson? : Nat → Json → Option ObservationFilter
  | 0, _ => none
  | depth + 1, json =>
    match json.fields? ["dataStream", "foi", "phenomenonTime", "resultTime", "limit"] with
    | some [dataStream, foi, phenomenonTime, resultTime, limit] => do
      return {
        dataStream := ← optional (dataStreamLink? depth) dataStream
        foi := ← optional (featureLink? depth) foi
        phenomenonTime := ← optional (TimeFilter.ofJson? depth) phenomenonTime
        resultTime := ← optional (TimeFilter.ofJson? depth) resultTime
        limit := ← optional Json.uint64? limit }
    | _ => none

/-- A filter on data streams. -/
def DataStreamFilter.ofJson? : Nat → Json → Option DataStreamFilter
  | 0, _ => none
  | depth + 1, json =>
    match json.fields? ["internalIds", "system", "fullText", "validTime", "outputNames",
      "observedProperties", "observations", "limit"] with
    | some [internalIds, system, fullText, validTime, outputNames, observedProperties,
        observations, limit] => do
      return {
        internalIds := ← defaulting ∅ (IdSet.ofJson? depth) internalIds
        system := ← optional (systemLink? depth) system
        fullText := ← optional (TextFilter.ofJson? depth) fullText
        validTime := ← optional (TimeFilter.ofJson? depth) validTime
        outputNames := ← defaulting ∅ (NameSet.ofJson? depth) outputNames
        observedProperties := ← defaulting ∅ (NameSet.ofJson? depth) observedProperties
        observations := ← optional (ObservationFilter.ofJson? depth) observations
        limit := ← optional Json.uint64? limit }
    | _ => none

/-- A filter on features of interest. -/
def FeatureFilter.ofJson? : Nat → Json → Option FeatureFilter
  | 0, _ => none
  | depth + 1, json =>
    match json.fields? ["internalIds", "uniqueIds", "parent", "observations", "location",
      "sampledFeature", "fullText", "validTime", "limit"] with
    | some [internalIds, uniqueIds, parent, observations, location, sampledFeature, fullText,
        validTime, limit] => do
      return {
        internalIds := ← defaulting ∅ (IdSet.ofJson? depth) internalIds
        uniqueIds := ← defaulting ∅ (NameSet.ofJson? depth) uniqueIds
        parent := ← optional (featureLink? depth) parent
        observations := ← optional (ObservationFilter.ofJson? depth) observations
        location := ← optional (SpatialFilter.ofJson? depth) location
        sampledFeature := ← optional (FeatureFilter.ofJson? depth) sampledFeature
        fullText := ← optional (TextFilter.ofJson? depth) fullText
        validTime := ← optional (TimeFilter.ofJson? depth) validTime
        limit := ← optional Json.uint64? limit }
    | _ => none

/-- A filter on systems. -/
def SystemFilter.ofJson? : Nat → Json → Option SystemFilter
  | 0, _ => none
  | depth + 1, json =>
    match json.fields? ["internalIds", "uniqueIds", "includeMembers", "parent", "procedure",
      "dataStreams", "fullText", "location", "validTime", "limit"] with
    | some [internalIds, uniqueIds, includeMembers, parent, procedure, dataStreams, fullText,
        location, validTime, limit] => do
      return {
        internalIds := ← defaulting ∅ (IdSet.ofJson? depth) internalIds
        uniqueIds := ← defaulting ∅ (NameSet.ofJson? depth) uniqueIds
        includeMembers := ← defaulting false Json.bool? includeMembers
        parent := ← optional (systemLink? depth) parent
        procedure := ← optional (SystemFilter.ofJson? depth) procedure
        dataStreams := ← optional (DataStreamFilter.ofJson? depth) dataStreams
        fullText := ← optional (TextFilter.ofJson? depth) fullText
        location := ← optional (SpatialFilter.ofJson? depth) location
        validTime := ← optional (TimeFilter.ofJson? depth) validTime
        limit := ← optional Json.uint64? limit }
    | _ => none

/-- A reference to data streams. -/
def dataStreamLink? : Nat → Json → Option (Linked DataStreamFilter)
  | 0, _ => none
  | depth + 1, json => Linked.ofJson? (IdSet.ofJson? depth) (DataStreamFilter.ofJson? depth) json

/-- A reference to features of interest. -/
def featureLink? : Nat → Json → Option (Linked FeatureFilter)
  | 0, _ => none
  | depth + 1, json => Linked.ofJson? (IdSet.ofJson? depth) (FeatureFilter.ofJson? depth) json

/-- A reference to systems. -/
def systemLink? : Nat → Json → Option (Linked SystemFilter)
  | 0, _ => none
  | depth + 1, json => Linked.ofJson? (IdSet.ofJson? depth) (SystemFilter.ofJson? depth) json

end

/-- A filter on observations for statistics. -/
def StatisticsFilter.ofJson? (depth : Nat) (json : Json) : Option StatisticsFilter :=
  match depth with
  | 0 => none
  | depth + 1 =>
    match json.fields? ["obs", "dataStreamId", "foiId", "limit"] with
    | some [observations, dataStreamId, foiId, limit] => do
      return {
        observations := ← defaulting {} (ObservationFilter.ofJson? depth) observations
        dataStreamId := ← optional Json.int64? dataStreamId
        foiId := ← optional Json.int64? foiId
        limit := ← optional Json.uint64? limit }
    | _ => none

mutual

/-- A filter on command streams. -/
def CommandStreamFilter.ofJson? : Nat → Json → Option CommandStreamFilter
  | 0, _ => none
  | depth + 1, json =>
    match json.fields? ["internalIds", "system", "fullText", "validTime", "controlInputNames",
      "taskableProperties", "commands", "limit"] with
    | some [internalIds, system, fullText, validTime, controlInputNames, taskableProperties,
        commands, limit] => do
      return {
        internalIds := ← defaulting ∅ (IdSet.ofJson? depth) internalIds
        system := ← optional (systemLink? depth) system
        fullText := ← optional (TextFilter.ofJson? depth) fullText
        validTime := ← optional (TimeFilter.ofJson? depth) validTime
        controlInputNames := ← defaulting ∅ (NameSet.ofJson? depth) controlInputNames
        taskableProperties := ← defaulting ∅ (NameSet.ofJson? depth) taskableProperties
        commands := ← optional (CommandFilter.ofJson? depth) commands
        limit := ← optional Json.uint64? limit }
    | _ => none

/-- A filter on commands. -/
def CommandFilter.ofJson? : Nat → Json → Option CommandFilter
  | 0, _ => none
  | depth + 1, json =>
    match json.fields? ["internalIds", "commandStream", "senderIds", "foiIds", "issueTime",
      "limit"] with
    | some [internalIds, commandStream, senderIds, foiIds, issueTime, limit] => do
      return {
        internalIds := ← defaulting ∅ (IdSet.ofJson? depth) internalIds
        commandStream := ← optional (commandStreamLink? depth) commandStream
        senderIds := ← defaulting ∅ (NameSet.ofJson? depth) senderIds
        foiIds := ← defaulting ∅ (IdSet.ofJson? depth) foiIds
        issueTime := ← optional (TimeFilter.ofJson? depth) issueTime
        limit := ← optional Json.uint64? limit }
    | _ => none

/-- A reference to command streams. -/
def commandStreamLink? : Nat → Json → Option (Linked CommandStreamFilter)
  | 0, _ => none
  | depth + 1, json => Linked.ofJson? (IdSet.ofJson? depth) (CommandStreamFilter.ofJson? depth) json

end

/-- The number of arrays, records and tagged values that may be nested. -/
def maxDepth : Nat := 127

namespace Filter

/-- The filter of an entity that a JSON value describes. -/
def ofJson? (entity : Entity) (json : Json) : Option Filter :=
  match entity with
  | .observation => (ObservationFilter.ofJson? maxDepth json).map .observation
  | .observationStatistics => (StatisticsFilter.ofJson? maxDepth json).map .observationStatistics
  | .dataStream => (DataStreamFilter.ofJson? maxDepth json).map .dataStream
  | .featureOfInterest => (FeatureFilter.ofJson? maxDepth json).map .featureOfInterest
  | .system => (SystemFilter.ofJson? maxDepth json).map .system
  | .commandStream => (CommandStreamFilter.ofJson? maxDepth json).map .commandStream
  | .command => (CommandFilter.ofJson? maxDepth json).map .command

/-- The filter of an entity that a JSON text describes. -/
def read? (entity : Entity) (text : String) : Option Filter := do
  ofJson? entity (← Json.read? text)

end Filter

end ObservationQuery
