import ObservationQuery.Compile.Filter
import ObservationQuery.Proofs.Condition

/-!
# What a filter asks for

The texts and the joins of a filter, in the order in which its criteria are dispatched. Criteria
that no filter with a query has are left out.

* `Filter.texts` — the texts of the user as they are written: names, patterns of unique
  identifiers, geometries, patterns of keywords and paths of properties.
* `Linked.joins` — the join of a reference that is followed by one, and those of the filter behind
  it.
* `Filter.joins` — the joins of a filter whose rows are in a table.
-/

namespace ObservationQuery

/-! ## Texts -/

/-- The texts of the filter behind a reference. -/
def Linked.texts {F : Type} (texts : F → List String) : Linked F → List String
  | ids _ => []
  | filter f => texts f

/-- The texts of a filter on features. Keywords are looked for in the name and in the
description. -/
def FeatureFilter.texts (f : FeatureFilter) : List String :=
  f.uniqueIds.toList.map uidText ++ f.location.elim [] (fun place => [place.wkt]) ++
    f.fullText.elim [] (fun search => [search.pattern, search.pattern])

/-- The texts of a filter on systems. -/
def SystemFilter.texts (f : SystemFilter) : List String :=
  f.uniqueIds.toList.map uidText ++ f.location.elim [] (fun place => [place.wkt]) ++
    f.fullText.elim [] (fun search => [search.pattern, search.pattern])

/-- The texts of a filter on data streams. -/
def DataStreamFilter.texts (f : DataStreamFilter) : List String :=
  f.system.elim [] (Linked.texts SystemFilter.texts) ++
    f.fullText.elim [] (fun search => [search.pattern]) ++ f.outputNames.toList ++
    propertyTexts f.observedProperties

/-- The texts of a filter on commands, apart from those of their streams. -/
def CommandFilter.ownTexts (f : CommandFilter) : List String := f.senderIds.toList

/-- The texts of a filter on command streams. -/
def CommandStreamFilter.texts (f : CommandStreamFilter) : List String :=
  f.system.elim [] (Linked.texts SystemFilter.texts) ++
    f.commands.elim [] CommandFilter.ownTexts ++
    f.fullText.elim [] (fun search => [search.pattern]) ++ f.controlInputNames.toList ++
    propertyTexts f.taskableProperties

/-- The texts of a filter on commands. -/
def CommandFilter.texts (f : CommandFilter) : List String :=
  f.commandStream.elim [] (Linked.texts CommandStreamFilter.texts) ++ f.ownTexts

/-- The texts of a filter on observations. -/
def ObservationFilter.texts (f : ObservationFilter) : List String :=
  f.dataStream.elim [] (Linked.texts DataStreamFilter.texts) ++
    f.foi.elim [] (Linked.texts FeatureFilter.texts)

/-- The texts of the user that the query of a filter holds. -/
def Filter.texts : Filter → List String
  | observation f => f.texts
  | observationStatistics f => f.observations.texts
  | dataStream f => f.texts
  | featureOfInterest f => f.texts
  | system f => f.texts
  | commandStream f => f.texts
  | command f => f.texts

/-! ## Joins -/

/-- The join of a reference that is followed by one, before those of the filter behind it. -/
def Linked.joins {F : Type} [Linkable F] (tables : Tables) (entity : Entity) (field : String)
    (on : String → Predicate) (inner : String → F → List Join) (link : Linked F) : List Join :=
  match link.resolve (tables.table? entity) entity field with
  | .ok (.join table nested) => ⟨table, on table⟩ :: inner table nested
  | _ => []

/-- The join of the system of the streams in `table`. -/
def StreamRow.systemJoins (tables : Tables) (table : String) : Linked SystemFilter → List Join :=
  Linked.joins tables .system "system"
    (fun system => .equal (StreamRow.systemId table) (FeatureRow.id system)) fun _ _ => []

/-- The joins of a filter on data streams. -/
def DataStreamFilter.joins (tables : Tables) (table : String) (f : DataStreamFilter) : List Join :=
  f.system.elim [] (StreamRow.systemJoins tables table)

/-- The joins of a filter on command streams. -/
def CommandStreamFilter.joins (tables : Tables) (table : String) (f : CommandStreamFilter) :
    List Join :=
  f.system.elim [] (StreamRow.systemJoins tables table)

/-- The joins of a filter on commands. -/
def CommandFilter.joins (tables : Tables) (table : String) (f : CommandFilter) : List Join :=
  f.commandStream.elim [] (Linked.joins tables .commandStream "commandStream"
    (fun streams => .equal (CommandRow.streamId table) (StreamRow.id streams))
    fun streams filter => filter.joins tables streams)

/-- The joins of the data streams of the observations in `table`. -/
def ObservationRow.dataStreamJoins (tables : Tables) (table : String) :
    Linked DataStreamFilter → List Join :=
  Linked.joins tables .dataStream "dataStream"
    (fun streams => .equal (ObservationRow.dataStreamId table) (StreamRow.id streams))
    fun streams filter => filter.joins tables streams

/-- Whether a reference is a filter that names "no feature", for which no row stands. -/
def Linked.namesNoFeature : Linked FeatureFilter → Bool
  | ids _ => false
  | filter f => noFeature ∈ f.internalIds

/-- The join of the features of the observations in `table`, unless "no feature" is named. -/
def ObservationRow.foiJoins (tables : Tables) (table : String) (link : Linked FeatureFilter) :
    List Join :=
  if link.namesNoFeature then []
  else
    link.joins tables .featureOfInterest "foi"
      (fun features => .equal (ObservationRow.foiId table) (FeatureRow.id features)) fun _ _ => []

/-- The joins of a filter on observations. -/
def ObservationFilter.joins (tables : Tables) (table : String) (f : ObservationFilter) :
    List Join :=
  f.dataStream.elim [] (ObservationRow.dataStreamJoins tables table) ++
    f.foi.elim [] (ObservationRow.foiJoins tables table)

/-- The joins of a filter whose rows are in `table`. Features and systems are not joined. -/
def Filter.joins (tables : Tables) (table : String) : Filter → List Join
  | observation f => f.joins tables table
  | observationStatistics f => f.observations.joins tables table
  | dataStream f => f.joins tables table
  | featureOfInterest _ => []
  | system _ => []
  | commandStream f => f.joins tables table
  | command f => f.joins tables table

end ObservationQuery
