import ObservationQuery.Compile.Stream

/-!
# Filters on observations and statistics

An observation refers to its data stream and, unless there is none, to the feature it observes.
Statistics are computed from observations, those of one data stream or of one feature if the filter
pins it.

* `ObservationRow` — the columns of an observation, and the criteria on them.
* `ObservationFilter.contribution`, `StatisticsFilter.contribution` — what a filter contributes to a
  query over the table `root` when the observations are in `table`.
-/

namespace ObservationQuery

namespace ObservationRow

/-- The internal identifier. -/
def id (table : String) : Expr := .column table "id"

/-- The internal identifier of the data stream. -/
def dataStreamId (table : String) : Expr := .column table "datastreamid"

/-- The internal identifier of the observed feature; null where there is none. -/
def foiId (table : String) : Expr := .column table "foiid"

/-- The observations of a data stream are a series in the time of a column. -/
def timed (table name : String) : TimedRows where
  table := table
  key := [id table]
  target := .moment (.column table name)
  group := [dataStreamId table]

/-- Observations of some data streams. A pinned stream narrows them further. -/
def dataStreamContribution (tables : Tables) (root table : String) (pin : Option Int64) :
    Option (Linked DataStreamFilter) → Contribution
  | none => pinned
  | some link =>
    .ofExcept (fun
        | .join streams filter =>
          .clause (.join ⟨streams, .equal (dataStreamId table) (StreamRow.id streams)⟩) ++
            filter.contribution tables root streams pin
        | .flat ids =>
          .condition? (Condition.hasId (dataStreamId table) ids.internalIds) ++ pinned)
      (link.resolve (tables.table? .dataStream) .dataStream "dataStream")
where
  pinned : Contribution := .condition? (pin.map (Condition.isId (dataStreamId table)))

/-- Observations of some features; `noFeature` stands for none. -/
def foiIdContribution (table : String) (ids : IdSet) : Contribution :=
  .condition? (Condition.hasFeature (foiId table) ids)

/-- Observations of the features that satisfy a filter. Where the features are joined, only their
versions valid during the phenomenon time count, if it is a range. No row stands for "no feature",
so a filter that names it must name identifiers only and is not joined. -/
def foiContribution (tables : Tables) (root table : String) (phenomenonTime : Option TimeFilter)
    (link : Linked FeatureFilter) : Contribution :=
  .ofExcept (fun
      | .join features filter =>
        if noFeature ∈ filter.internalIds then
          match idsOnly? filter with
          | some ids => foiIdContribution table ids.internalIds
          | none => .fail (.invalidFilter .noFeatureCombined)
        else
          .clause (.join ⟨features, .equal (foiId table) (FeatureRow.id features)⟩) ++
            (filter.contribution root features ++
              .ofOption (FeatureRow.validTimeContribution root features)
                (phenomenonTime.filter fun time => !time.isLatest))
      | .flat ids => foiIdContribution table ids.internalIds)
    (link.resolve (tables.table? .featureOfInterest) .featureOfInterest "foi")

/-- Observations whose times satisfy criteria, first the phenomenon time. -/
def timesContribution (root table : String) (phenomenonTime resultTime : Option TimeFilter) :
    Contribution :=
  .ofOption (fun time => time.contribution root (timed table "phenomenonTime")) phenomenonTime ++
    .ofOption (fun time => time.contribution root (timed table "resultTime")) resultTime

end ObservationRow

open ObservationRow

/-- What a filter on observations contributes to a query over the table `root`. -/
def ObservationFilter.contribution (tables : Tables) (root table : String)
    (f : ObservationFilter) : Contribution :=
  .all [
    dataStreamContribution tables root table none f.dataStream,
    .ofOption (foiContribution tables root table f.phenomenonTime) f.foi,
    timesContribution root table f.phenomenonTime f.resultTime]

/-- What a filter on observations for statistics contributes to a query over the table `root`. -/
def StatisticsFilter.contribution (tables : Tables) (root table : String)
    (f : StatisticsFilter) : Contribution :=
  let obs := f.observations
  .all [
    dataStreamContribution tables root table f.dataStreamId obs.dataStream,
    .ofOption (foiContribution tables root table obs.phenomenonTime) obs.foi,
    .ofOption (fun feature => foiIdContribution table (.singleton feature)) f.foiId,
    timesContribution root table obs.phenomenonTime obs.resultTime]

end ObservationQuery
