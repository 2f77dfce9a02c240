import ObservationQuery.Compile.Time
import ObservationQuery.Condition.Description
import ObservationQuery.Condition.Identity
import ObservationQuery.Condition.Place

/-!
# Filters on features and systems

Features of interest and systems are kept alike: a row holds one version of a feature, with its
properties in a JSON document, and is valid for the period in the property `validTime`.

* `FeatureRow` — the columns of such a row.
* `FeatureFilter.contribution`, `SystemFilter.contribution` — what a filter contributes to a query
  over the table `root` when its rows are in `table`. Neither refers to another table.
-/

namespace ObservationQuery

namespace FeatureRow

/-- The internal identifier. -/
def id (table : String) : Expr := .column table "id"

/-- The internal identifier of the parent. -/
def parentId (table : String) : Expr := .column table "parentid"

/-- The geometry. -/
def geometry (table : String) : Expr := .column table "geometry"

/-- The text of a property. -/
def property (table name : String) : Expr :=
  .documentText table [.member "properties", .member name]

/-- The unique identifier. -/
def uniqueId (table : String) : Expr := (property table "uid").group

/-- The start of the validity, which is an array of two times. -/
def validStart (table : String) : Expr :=
  .documentText table [.member "properties", .member "validTime", .item 0]

/-- The end of the validity. -/
def validStop (table : String) : Expr :=
  .documentText table [.member "properties", .member "validTime", .item 1]

/-- The start of the validity as a time. -/
def validSince (table : String) : Expr := (validStart table).cast .timestamptz

/-- The versions of a feature have its identifier in common, so one version is told from another by
the start of its validity. -/
def versions (table : String) : TimedRows where
  table := table
  key := [id table, validSince table]
  target := .period (validStart table) (validStop table) (validSince table)
  group := [id table]

/-- Features of some parents. Parents can be named by internal identifier only. -/
def parentContribution {F : Type} [Linkable F] (entity : Entity) (table : String) :
    Linked F → Contribution
  | .ids ids => .condition? (Condition.hasId (parentId table) ids)
  | .filter filter =>
    match idsOnly? filter with
    | some ids =>
      if ids.uniqueIds.isEmpty then
        .condition? (Condition.hasId (parentId table) ids.internalIds)
      else .fail (.unsupported entity "parent")
    | none => .fail (.unsupported entity "parent")

/-- Features of some unique identifiers. -/
def uniqueIdContribution (table : String) (uids : NameSet) : Contribution :=
  .condition? (Condition.hasUniqueId (uniqueId table) uids)

/-- Features at a place. -/
def locationContribution (table : String) (place : SpatialFilter) : Contribution :=
  .ofExcept .condition (Condition.isPlaced (geometry table) place)

/-- Features with one of the keywords in their name or description. -/
def fullTextContribution (table : String) (search : TextFilter) : Contribution :=
  .ofExcept .condition
    (Condition.mentions [property table "name", property table "description"] search)

/-- Versions of features whose validity satisfies a criterion; the latest is the newest version of
each feature. -/
def validTimeContribution (root table : String) (time : TimeFilter) : Contribution :=
  time.contribution root (versions table)

end FeatureRow

open FeatureRow

/-- What a filter on features contributes to a query over the table `root`. -/
def FeatureFilter.contribution (root table : String) (f : FeatureFilter) : Contribution :=
  .all [
    .ofOption (parentContribution .featureOfInterest table) f.parent,
    .unsupported .featureOfInterest "observations" f.observations,
    .unsupported .featureOfInterest "sampledFeature" f.sampledFeature,
    .condition? (Condition.hasId (FeatureRow.id table) f.internalIds),
    uniqueIdContribution table f.uniqueIds,
    .ofOption (locationContribution table) f.location,
    .ofOption (fullTextContribution table) f.fullText,
    .ofOption (validTimeContribution root table) f.validTime]

/-- The systems named by internal identifier, and their members if these are wanted too. -/
def SystemFilter.idCondition? (table : String) (f : SystemFilter) : Option Condition :=
  Condition.anyOf? (Condition.idTests (FeatureRow.id table) f.internalIds ++
    if f.includeMembers then Condition.idTests (parentId table) f.internalIds else [])

/-- What a filter on systems contributes to a query over the table `root`. -/
def SystemFilter.contribution (root table : String) (f : SystemFilter) : Contribution :=
  .all [
    .ofOption (parentContribution .system table) f.parent,
    .unsupported .system "procedure" f.procedure,
    .unsupported .system "dataStreams" f.dataStreams,
    .condition? (f.idCondition? table),
    uniqueIdContribution table f.uniqueIds,
    .ofOption (locationContribution table) f.location,
    .ofOption (fullTextContribution table) f.fullText,
    .ofOption (validTimeContribution root table) f.validTime]

end ObservationQuery
