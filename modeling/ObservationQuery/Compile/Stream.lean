import ObservationQuery.Compile.Feature
import ObservationQuery.Compile.Link
import ObservationQuery.Tables.Basic

/-!
# Filters on data streams

Data streams and command streams are kept alike: a row holds one version of a stream, described by
a JSON document that names the system of the stream and the period for which the row is valid.

* `StreamRow` — the columns of such a row, and the criteria that both kinds of streams have.
* `DataStreamFilter.contribution` — what a filter contributes to a query over the table `root` when
  its rows are in `table`. A pinned stream takes the place of the internal identifiers.
-/

namespace ObservationQuery

namespace StreamRow

/-- The internal identifier. -/
def id (table : String) : Expr := .column table "id"

/-- The internal identifier of the system. -/
def systemId (table : String) : Expr :=
  .cast (.documentText table [.member "system@id", .member "internalID", .member "id"]) .bigint

/-- The unique identifier of the system. -/
def systemUniqueId (table : String) : Expr :=
  .group (.documentText table [.member "system@id", .member "uniqueID"])

/-- A text member of the description. -/
def text (table member : String) : Expr := .group (.documentText table [.member member])

/-- The description of the records. -/
def recordDescription (table : String) : Expr :=
  .documentText table [.member "recordSchema", .member "description"]

/-- The start of the validity. -/
def validStart (table : String) : Expr :=
  .documentText table [.member "validTime", .member "begin"]

/-- The end of the validity. -/
def validStop (table : String) : Expr := .documentText table [.member "validTime", .member "end"]

/-- The end of the validity as a time. -/
def validUntil (table : String) : Expr := (validStop table).cast .timestamptz

/-- The versions of a stream have its name and its system in common. -/
def versions (table : String) : TimedRows where
  table := table
  key := [id table]
  target := .period (validStart table) (validStop table) (validUntil table)
  group := [text table "name", systemId table]

/-- Streams of some systems: joined where systems are stored, else by the identifiers in the
description. -/
def systemContribution (tables : Tables) (root table : String) (link : Linked SystemFilter) :
    Contribution :=
  .ofExcept (fun
      | .join system filter =>
        .clause (.join ⟨system, .equal (systemId table) (FeatureRow.id system)⟩) ++
          filter.contribution root system
      | .flat ids =>
        .condition? (Condition.hasId (systemId table) ids.internalIds) ++
          .condition? (Condition.hasUniqueId (systemUniqueId table) ids.uniqueIds))
    (link.resolve (tables.table? .system) .system "system")

/-- Streams with one of the keywords in the description of their records. -/
def fullTextContribution (table : String) (search : TextFilter) : Contribution :=
  .ofExcept .condition (Condition.mentions [recordDescription table] search)

/-- Streams whose description has one of the property URIs. -/
def propertyContribution (table : String) (uris : NameSet) : Contribution :=
  .condition? (Condition.hasProperty (.column table "data") uris)

/-- Streams in one of whose text members there is one of the names. -/
def nameContribution (table member : String) (names : NameSet) : Contribution :=
  .condition? (Condition.hasName (text table member) names)

/-- Versions of streams whose validity satisfies a criterion; the latest is the version of each
named stream of each system whose validity ends last. -/
def validTimeContribution (root table : String) (time : TimeFilter) : Contribution :=
  time.contribution root (versions table)

end StreamRow

open StreamRow

/-- What a filter on data streams contributes to a query over the table `root`. -/
def DataStreamFilter.contribution (tables : Tables) (root table : String) (pin : Option Int64)
    (f : DataStreamFilter) : Contribution :=
  .all [
    .ofOption (systemContribution tables root table) f.system,
    .unsupported .dataStream "observations" f.observations,
    match pin with
    | some stream => .condition (Condition.isId (StreamRow.id table) stream)
    | none => .condition? (Condition.hasId (StreamRow.id table) f.internalIds),
    .ofOption (StreamRow.fullTextContribution table) f.fullText,
    nameContribution table "outputName" f.outputNames,
    propertyContribution table f.observedProperties,
    .ofOption (StreamRow.validTimeContribution root table) f.validTime]

end ObservationQuery
