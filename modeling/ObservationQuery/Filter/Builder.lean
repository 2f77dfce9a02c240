import ObservationQuery.Filter.Basic

/-!
# Building filters step by step

Each function adds one criterion to a filter. Identifiers and names of the entity itself are added
to those the filter has; a reference to a linked entity, a time, a place or a search replaces the
one the filter has.
-/

namespace ObservationQuery

namespace ObservationFilter

/-- Observations of these data streams. -/
def withDataStreamIds (ids : List Int64) (f : ObservationFilter) : ObservationFilter :=
  { f with dataStream := some (.ids (.ofList ids)) }

/-- Observations of the data streams that satisfy a filter. -/
def withDataStreams (filter : DataStreamFilter) (f : ObservationFilter) : ObservationFilter :=
  { f with dataStream := some (.filter filter) }

/-- Observations of these features. -/
def withFoiIds (ids : List Int64) (f : ObservationFilter) : ObservationFilter :=
  { f with foi := some (.ids (.ofList ids)) }

/-- Observations of the features that satisfy a filter. -/
def withFois (filter : FeatureFilter) (f : ObservationFilter) : ObservationFilter :=
  { f with foi := some (.filter filter) }

/-- Observations whose phenomenon time satisfies a criterion. -/
def withPhenomenonTime (time : TimeFilter) (f : ObservationFilter) : ObservationFilter :=
  { f with phenomenonTime := some time }

/-- Observations whose result time satisfies a criterion. -/
def withResultTime (time : TimeFilter) (f : ObservationFilter) : ObservationFilter :=
  { f with resultTime := some time }

/-- At most `limit` observations. -/
def withLimit (limit : UInt64) (f : ObservationFilter) : ObservationFilter :=
  { f with limit := some limit }

end ObservationFilter

namespace StatisticsFilter

/-- Statistics of one data stream. -/
def withDataStreamId (id : Int64) (f : StatisticsFilter) : StatisticsFilter :=
  { f with dataStreamId := some id }

/-- Statistics of one feature. -/
def withFoiId (id : Int64) (f : StatisticsFilter) : StatisticsFilter :=
  { f with foiId := some id }

end StatisticsFilter

namespace DataStreamFilter

/-- These data streams too. -/
def withInternalIds (ids : List Int64) (f : DataStreamFilter) : DataStreamFilter :=
  { f with internalIds := f.internalIds.insertAll ids }

/-- Data streams of these systems. -/
def withSystemIds (ids : List Int64) (f : DataStreamFilter) : DataStreamFilter :=
  { f with system := some (.ids (.ofList ids)) }

/-- Data streams of the systems that satisfy a filter. -/
def withSystems (filter : SystemFilter) (f : DataStreamFilter) : DataStreamFilter :=
  { f with system := some (.filter filter) }

/-- Data streams of these outputs too. -/
def withOutputNames (names : List String) (f : DataStreamFilter) : DataStreamFilter :=
  { f with outputNames := f.outputNames.insertAll names }

/-- Data streams of these properties too. -/
def withObservedProperties (uris : List String) (f : DataStreamFilter) : DataStreamFilter :=
  { f with observedProperties := f.observedProperties.insertAll uris }

/-- Data streams whose description has one of the keywords. -/
def withFullText (search : TextFilter) (f : DataStreamFilter) : DataStreamFilter :=
  { f with fullText := some search }

/-- Data streams whose validity satisfies a criterion. -/
def withValidTime (time : TimeFilter) (f : DataStreamFilter) : DataStreamFilter :=
  { f with validTime := some time }

end DataStreamFilter

namespace FeatureFilter

/-- These features too. -/
def withInternalIds (ids : List Int64) (f : FeatureFilter) : FeatureFilter :=
  { f with internalIds := f.internalIds.insertAll ids }

/-- Features of these unique identifiers too. -/
def withUniqueIds (uids : List String) (f : FeatureFilter) : FeatureFilter :=
  { f with uniqueIds := f.uniqueIds.insertAll uids }

/-- Features of these parents. -/
def withParentIds (ids : List Int64) (f : FeatureFilter) : FeatureFilter :=
  { f with parent := some (.ids (.ofList ids)) }

/-- Features at a place. -/
def withLocation (location : SpatialFilter) (f : FeatureFilter) : FeatureFilter :=
  { f with location := some location }

/-- Features whose description has one of the keywords. -/
def withFullText (search : TextFilter) (f : FeatureFilter) : FeatureFilter :=
  { f with fullText := some search }

/-- Features whose validity satisfies a criterion. -/
def withValidTime (time : TimeFilter) (f : FeatureFilter) : FeatureFilter :=
  { f with validTime := some time }

end FeatureFilter

namespace SystemFilter

/-- These systems too. -/
def withInternalIds (ids : List Int64) (f : SystemFilter) : SystemFilter :=
  { f with internalIds := f.internalIds.insertAll ids }

/-- Systems of these unique identifiers too. -/
def withUniqueIds (uids : List String) (f : SystemFilter) : SystemFilter :=
  { f with uniqueIds := f.uniqueIds.insertAll uids }

/-- The members of the selected systems too. -/
def includingMembers (f : SystemFilter) : SystemFilter :=
  { f with includeMembers := true }

/-- Systems of these parents. -/
def withParentIds (ids : List Int64) (f : SystemFilter) : SystemFilter :=
  { f with parent := some (.ids (.ofList ids)) }

/-- Systems at a place. -/
def withLocation (location : SpatialFilter) (f : SystemFilter) : SystemFilter :=
  { f with location := some location }

/-- Systems whose description has one of the keywords. -/
def withFullText (search : TextFilter) (f : SystemFilter) : SystemFilter :=
  { f with fullText := some search }

/-- Systems whose validity satisfies a criterion. -/
def withValidTime (time : TimeFilter) (f : SystemFilter) : SystemFilter :=
  { f with validTime := some time }

end SystemFilter

namespace CommandStreamFilter

/-- These command streams too. -/
def withInternalIds (ids : List Int64) (f : CommandStreamFilter) : CommandStreamFilter :=
  { f with internalIds := f.internalIds.insertAll ids }

/-- Command streams of these systems. -/
def withSystemIds (ids : List Int64) (f : CommandStreamFilter) : CommandStreamFilter :=
  { f with system := some (.ids (.ofList ids)) }

/-- Command streams of the systems that satisfy a filter. -/
def withSystems (filter : SystemFilter) (f : CommandStreamFilter) : CommandStreamFilter :=
  { f with system := some (.filter filter) }

/-- Command streams of these control inputs too. -/
def withControlInputNames (names : List String) (f : CommandStreamFilter) : CommandStreamFilter :=
  { f with controlInputNames := f.controlInputNames.insertAll names }

/-- Command streams of these properties too. -/
def withTaskableProperties (uris : List String) (f : CommandStreamFilter) : CommandStreamFilter :=
  { f with taskableProperties := f.taskableProperties.insertAll uris }

/-- Command streams whose description has one of the keywords. -/
def withFullText (search : TextFilter) (f : CommandStreamFilter) : CommandStreamFilter :=
  { f with fullText := some search }

/-- Command streams whose validity satisfies a criterion. -/
def withValidTime (time : TimeFilter) (f : CommandStreamFilter) : CommandStreamFilter :=
  { f with validTime := some time }

/-- Command streams with a command that satisfies a filter. -/
def withCommands (filter : CommandFilter) (f : CommandStreamFilter) : CommandStreamFilter :=
  { f with commands := some filter }

end CommandStreamFilter

namespace CommandFilter

/-- These commands too. -/
def withInternalIds (ids : List Int64) (f : CommandFilter) : CommandFilter :=
  { f with internalIds := f.internalIds.insertAll ids }

/-- Commands of these command streams. -/
def withCommandStreamIds (ids : List Int64) (f : CommandFilter) : CommandFilter :=
  { f with commandStream := some (.ids (.ofList ids)) }

/-- Commands of the command streams that satisfy a filter. -/
def withCommandStreams (filter : CommandStreamFilter) (f : CommandFilter) : CommandFilter :=
  { f with commandStream := some (.filter filter) }

/-- Commands of these senders too. -/
def withSenderIds (senders : List String) (f : CommandFilter) : CommandFilter :=
  { f with senderIds := f.senderIds.insertAll senders }

/-- Commands to these features too. -/
def withFoiIds (ids : List Int64) (f : CommandFilter) : CommandFilter :=
  { f with foiIds := f.foiIds.insertAll ids }

/-- Commands whose issue time satisfies a criterion. -/
def withIssueTime (time : TimeFilter) (f : CommandFilter) : CommandFilter :=
  { f with issueTime := some time }

end CommandFilter

end ObservationQuery
