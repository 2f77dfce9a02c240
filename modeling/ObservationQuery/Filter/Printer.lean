import ObservationQuery.Filter.Basic
import ObservationQuery.Instant.Printer
import ObservationQuery.Json.Printer

/-!
# Filters as JSON

A filter is written as an object with all its fields: an absent criterion is null, an empty set an
empty array.

* `Filter.toJson`, `Filter.print` — the JSON value and the text of a filter.
* `ObservationFilter.toJson` and its companions — the value of a filter of one entity.
-/

namespace ObservationQuery

open Json (objectOf arrayOf nullable)

/-- The array of a set of identifiers. -/
def IdSet.toJson (s : IdSet) : Json := arrayOf (fun id => .integer id.toInt) s.toList

/-- The array of a set of names. -/
def NameSet.toJson (s : NameSet) : Json := arrayOf Json.text s.toList

/-- The number of rows. -/
def limitJson : Option UInt64 → Json := nullable fun n => .integer n.toNat

/-- The name of a relation. -/
def PeriodRelation.name : PeriodRelation → String
  | contains => "contains"
  | intersects => "intersects"
  | equals => "equals"

/-- The name of a relation. -/
def SpatialRelation.name : SpatialRelation → String
  | intersects => "intersects"
  | contains => "contains"
  | within => "within"

/-- A criterion on a time, with its kind in the member `type`. -/
def TimeFilter.toJson : TimeFilter → Json
  | .latest => objectOf [("type", .text "latest")]
  | .range first last relation => objectOf [
      ("type", .text "range"),
      ("min", .text first.text),
      ("max", .text last.text),
      ("op", .text relation.name)]

/-- A place. -/
def SpatialFilter.toJson (f : SpatialFilter) : Json := objectOf [
  ("wkt", .text f.wkt),
  ("srid", .integer f.srid.toInt),
  ("op", .text f.relation.name)]

/-- Keywords. -/
def TextFilter.toJson (f : TextFilter) : Json :=
  objectOf [("keywords", arrayOf Json.text f.keywords)]

mutual

/-- A filter on observations. -/
def ObservationFilter.toJson : ObservationFilter → Json
  | ⟨dataStream, foi, phenomenonTime, resultTime, limit⟩ => objectOf [
      ("dataStream", dataStreamLinkJson dataStream),
      ("foi", featureLinkJson foi),
      ("phenomenonTime", nullable TimeFilter.toJson phenomenonTime),
      ("resultTime", nullable TimeFilter.toJson resultTime),
      ("limit", limitJson limit)]

/-- A filter on data streams. -/
def DataStreamFilter.toJson : DataStreamFilter → Json
  | ⟨internalIds, system, fullText, validTime, outputNames, observedProperties, observations,
      limit⟩ => objectOf [
      ("internalIds", IdSet.toJson internalIds),
      ("system", systemLinkJson system),
      ("fullText", nullable TextFilter.toJson fullText),
      ("validTime", nullable TimeFilter.toJson validTime),
      ("outputNames", NameSet.toJson outputNames),
      ("observedProperties", NameSet.toJson observedProperties),
      ("observations", match observations with
        | none => .null
        | some filter => filter.toJson),
      ("limit", limitJson limit)]

/-- A filter on features of interest. -/
def FeatureFilter.toJson : FeatureFilter → Json
  | ⟨internalIds, uniqueIds, parent, observations, location, sampledFeature, fullText, validTime,
      limit⟩ => objectOf [
      ("internalIds", IdSet.toJson internalIds),
      ("uniqueIds", NameSet.toJson uniqueIds),
      ("parent", featureLinkJson parent),
      ("observations", match observations with
        | none => .null
        | some filter => filter.toJson),
      ("location", nullable SpatialFilter.toJson location),
      ("sampledFeature", match sampledFeature with
        | none => .null
        | some filter => filter.toJson),
      ("fullText", nullable TextFilter.toJson fullText),
      ("validTime", nullable TimeFilter.toJson validTime),
      ("limit", limitJson limit)]

/-- A filter on systems. -/
def SystemFilter.toJson : SystemFilter → Json
  | ⟨internalIds, uniqueIds, includeMembers, parent, procedure, dataStreams, fullText, location,
      validTime, limit⟩ => objectOf [
      ("internalIds", IdSet.toJson internalIds),
      ("uniqueIds", NameSet.toJson uniqueIds),
      ("includeMembers", .bool includeMembers),
      ("parent", systemLinkJson parent),
      ("procedure", match procedure with
        | none => .null
        | some filter => filter.toJson),
      ("dataStreams", match dataStreams with
        | none => .null
        | some filter => filter.toJson),
      ("fullText", nullable TextFilter.toJson fullText),
      ("location", nullable SpatialFilter.toJson location),
      ("validTime", nullable TimeFilter.toJson validTime),
      ("limit", limitJson limit)]

/-- A reference to data streams. -/
def dataStreamLinkJson : Option (Linked DataStreamFilter) → Json
  | none => .null
  | some (.ids ids) => objectOf [("ids", IdSet.toJson ids)]
  | some (.filter filter) => objectOf [("filter", filter.toJson)]

/-- A reference to features of interest. -/
def featureLinkJson : Option (Linked FeatureFilter) → Json
  | none => .null
  | some (.ids ids) => objectOf [("ids", IdSet.toJson ids)]
  | some (.filter filter) => objectOf [("filter", filter.toJson)]

/-- A reference to systems. -/
def systemLinkJson : Option (Linked SystemFilter) → Json
  | none => .null
  | some (.ids ids) => objectOf [("ids", IdSet.toJson ids)]
  | some (.filter filter) => objectOf [("filter", filter.toJson)]

end

/-- A filter on observations for statistics. -/
def StatisticsFilter.toJson (f : StatisticsFilter) : Json := objectOf [
  ("obs", f.observations.toJson),
  ("dataStreamId", nullable (fun id => .integer id.toInt) f.dataStreamId),
  ("foiId", nullable (fun id => .integer id.toInt) f.foiId),
  ("limit", limitJson f.limit)]

mutual

/-- A filter on command streams. -/
def CommandStreamFilter.toJson : CommandStreamFilter → Json
  | ⟨internalIds, system, fullText, validTime, controlInputNames, taskableProperties, commands,
      limit⟩ => objectOf [
      ("internalIds", IdSet.toJson internalIds),
      ("system", systemLinkJson system),
      ("fullText", nullable TextFilter.toJson fullText),
      ("validTime", nullable TimeFilter.toJson validTime),
      ("controlInputNames", NameSet.toJson controlInputNames),
      ("taskableProperties", NameSet.toJson taskableProperties),
      ("commands", match commands with
        | none => .null
        | some filter => filter.toJson),
      ("limit", limitJson limit)]

/-- A filter on commands. -/
def CommandFilter.toJson : CommandFilter → Json
  | ⟨internalIds, commandStream, senderIds, foiIds, issueTime, limit⟩ => objectOf [
      ("internalIds", IdSet.toJson internalIds),
      ("commandStream", commandStreamLinkJson commandStream),
      ("senderIds", NameSet.toJson senderIds),
      ("foiIds", IdSet.toJson foiIds),
      ("issueTime", nullable TimeFilter.toJson issueTime),
      ("limit", limitJson limit)]

/-- A reference to command streams. -/
def commandStreamLinkJson : Option (Linked CommandStreamFilter) → Json
  | none => .null
  | some (.ids ids) => objectOf [("ids", IdSet.toJson ids)]
  | some (.filter filter) => objectOf [("filter", filter.toJson)]

end

namespace Filter

/-- The JSON value of a filter. -/
def toJson : Filter → Json
  | observation f => f.toJson
  | observationStatistics f => f.toJson
  | dataStream f => f.toJson
  | featureOfInterest f => f.toJson
  | system f => f.toJson
  | commandStream f => f.toJson
  | command f => f.toJson

/-- The JSON text of a filter. -/
def print (f : Filter) : String := f.toJson.print

end Filter

end ObservationQuery
