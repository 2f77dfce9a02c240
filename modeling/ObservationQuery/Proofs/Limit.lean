import Mathlib.Algebra.Group.Nat.Defs
import ObservationQuery.Proofs.Compile.Alike
import ObservationQuery.Proofs.Sql.Parts

/-!
# Row limits

Every filter has a limit, those in a reference too, but a query has one limit, that of the filter it
is the query of. The limits of the filters inside it have no effect, not even on whether a filter
names identifiers only.

* `ObservationFilter.withoutLimits`, … — a filter without its limit and those of the filters in it,
  at any depth.
* `Filter.withoutNestedLimits` — a filter without the limits that do not count.

Principal results: `Filter.contribution_withoutLimits` — limits contribute nothing; `compile_limits`
— the limits inside a filter have no effect, and its own limit is the end of the text of its query,
or the reason that it has none.
-/

namespace ObservationQuery

open Contribution

/-! ## Filters without limits -/

/-- The reference with another filter behind it. -/
def Linked.map {F G : Type} (g : F → G) : Linked F → Linked G
  | ids s => ids s
  | filter f => filter (g f)

mutual

/-- A filter on observations without any limits. -/
def ObservationFilter.withoutLimits : ObservationFilter → ObservationFilter
  | ⟨dataStream, foi, phenomenonTime, resultTime, _⟩ =>
    ⟨dataStreamLinkWithoutLimits dataStream, featureLinkWithoutLimits foi, phenomenonTime,
      resultTime, none⟩

/-- A filter on data streams without any limits. -/
def DataStreamFilter.withoutLimits : DataStreamFilter → DataStreamFilter
  | ⟨internalIds, system, fullText, validTime, outputNames, observedProperties, observations, _⟩ =>
    ⟨internalIds, systemLinkWithoutLimits system, fullText, validTime, outputNames,
      observedProperties,
      match observations with
      | none => none
      | some f => some f.withoutLimits, none⟩

/-- A filter on features without any limits. -/
def FeatureFilter.withoutLimits : FeatureFilter → FeatureFilter
  | ⟨internalIds, uniqueIds, parent, observations, location, sampledFeature, fullText, validTime,
      _⟩ =>
    ⟨internalIds, uniqueIds, featureLinkWithoutLimits parent,
      match observations with
      | none => none
      | some f => some f.withoutLimits, location,
      match sampledFeature with
      | none => none
      | some f => some f.withoutLimits, fullText, validTime, none⟩

/-- A filter on systems without any limits. -/
def SystemFilter.withoutLimits : SystemFilter → SystemFilter
  | ⟨internalIds, uniqueIds, includeMembers, parent, procedure, dataStreams, fullText, location,
      validTime, _⟩ =>
    ⟨internalIds, uniqueIds, includeMembers, systemLinkWithoutLimits parent,
      match procedure with
      | none => none
      | some f => some f.withoutLimits,
      match dataStreams with
      | none => none
      | some f => some f.withoutLimits, fullText, location, validTime, none⟩

/-- A reference to data streams without any limits. -/
def dataStreamLinkWithoutLimits :
    Option (Linked DataStreamFilter) → Option (Linked DataStreamFilter)
  | none => none
  | some (.ids s) => some (.ids s)
  | some (.filter f) => some (.filter f.withoutLimits)

/-- A reference to features without any limits. -/
def featureLinkWithoutLimits : Option (Linked FeatureFilter) → Option (Linked FeatureFilter)
  | none => none
  | some (.ids s) => some (.ids s)
  | some (.filter f) => some (.filter f.withoutLimits)

/-- A reference to systems without any limits. -/
def systemLinkWithoutLimits : Option (Linked SystemFilter) → Option (Linked SystemFilter)
  | none => none
  | some (.ids s) => some (.ids s)
  | some (.filter f) => some (.filter f.withoutLimits)

end

/-- A filter for statistics without any limits. -/
def StatisticsFilter.withoutLimits (f : StatisticsFilter) : StatisticsFilter :=
  { f with observations := f.observations.withoutLimits, limit := none }

mutual

/-- A filter on command streams without any limits. -/
def CommandStreamFilter.withoutLimits : CommandStreamFilter → CommandStreamFilter
  | ⟨internalIds, system, fullText, validTime, controlInputNames, taskableProperties, commands,
      _⟩ =>
    ⟨internalIds, systemLinkWithoutLimits system, fullText, validTime, controlInputNames,
      taskableProperties,
      match commands with
      | none => none
      | some f => some f.withoutLimits, none⟩

/-- A filter on commands without any limits. -/
def CommandFilter.withoutLimits : CommandFilter → CommandFilter
  | ⟨internalIds, commandStream, senderIds, foiIds, issueTime, _⟩ =>
    ⟨internalIds,
      match commandStream with
      | none => none
      | some (.ids s) => some (.ids s)
      | some (.filter f) => some (.filter f.withoutLimits), senderIds, foiIds, issueTime, none⟩

end

namespace Filter

/-- The filter without its limit and those of the filters in it. -/
def withoutLimits : Filter → Filter
  | observation f => observation f.withoutLimits
  | observationStatistics f => observationStatistics f.withoutLimits
  | dataStream f => dataStream f.withoutLimits
  | featureOfInterest f => featureOfInterest f.withoutLimits
  | system f => system f.withoutLimits
  | commandStream f => commandStream f.withoutLimits
  | command f => command f.withoutLimits

end Filter

/-! ## What is left of a filter -/

theorem dataStreamLinkWithoutLimits_eq (link : Option (Linked DataStreamFilter)) :
    dataStreamLinkWithoutLimits link = link.map (Linked.map DataStreamFilter.withoutLimits) := by
  rcases link with _ | _ | _ <;> simp only [dataStreamLinkWithoutLimits] <;> rfl

theorem featureLinkWithoutLimits_eq (link : Option (Linked FeatureFilter)) :
    featureLinkWithoutLimits link = link.map (Linked.map FeatureFilter.withoutLimits) := by
  rcases link with _ | _ | _ <;> simp only [featureLinkWithoutLimits] <;> rfl

theorem systemLinkWithoutLimits_eq (link : Option (Linked SystemFilter)) :
    systemLinkWithoutLimits link = link.map (Linked.map SystemFilter.withoutLimits) := by
  rcases link with _ | _ | _ <;> simp only [systemLinkWithoutLimits] <;> rfl

theorem ObservationFilter.withoutLimits_eq (f : ObservationFilter) : f.withoutLimits = { f with
    dataStream := f.dataStream.map (Linked.map DataStreamFilter.withoutLimits)
    foi := f.foi.map (Linked.map FeatureFilter.withoutLimits)
    limit := none } := by
  obtain ⟨⟩ := f
  rw [withoutLimits, dataStreamLinkWithoutLimits_eq, featureLinkWithoutLimits_eq]

theorem DataStreamFilter.withoutLimits_eq (f : DataStreamFilter) : f.withoutLimits = { f with
    system := f.system.map (Linked.map SystemFilter.withoutLimits)
    observations := f.observations.map ObservationFilter.withoutLimits
    limit := none } := by
  obtain ⟨_, _, _, _, _, _, observations, _⟩ := f
  cases observations <;> rw [withoutLimits, systemLinkWithoutLimits_eq] <;> rfl

theorem FeatureFilter.withoutLimits_eq (f : FeatureFilter) : f.withoutLimits = { f with
    parent := f.parent.map (Linked.map FeatureFilter.withoutLimits)
    observations := f.observations.map ObservationFilter.withoutLimits
    sampledFeature := f.sampledFeature.map FeatureFilter.withoutLimits
    limit := none } := by
  obtain ⟨_, _, _, observations, _, sampledFeature, _, _, _⟩ := f
  cases observations <;> cases sampledFeature <;>
    rw [withoutLimits, featureLinkWithoutLimits_eq] <;> rfl

theorem SystemFilter.withoutLimits_eq (f : SystemFilter) : f.withoutLimits = { f with
    parent := f.parent.map (Linked.map SystemFilter.withoutLimits)
    procedure := f.procedure.map SystemFilter.withoutLimits
    dataStreams := f.dataStreams.map DataStreamFilter.withoutLimits
    limit := none } := by
  obtain ⟨_, _, _, _, procedure, dataStreams, _, _, _, _⟩ := f
  cases procedure <;> cases dataStreams <;>
    rw [withoutLimits, systemLinkWithoutLimits_eq] <;> rfl

theorem CommandStreamFilter.withoutLimits_eq (f : CommandStreamFilter) :
    f.withoutLimits = { f with
      system := f.system.map (Linked.map SystemFilter.withoutLimits)
      commands := f.commands.map CommandFilter.withoutLimits
      limit := none } := by
  obtain ⟨_, _, _, _, _, _, commands, _⟩ := f
  cases commands <;> rw [withoutLimits, systemLinkWithoutLimits_eq] <;> rfl

theorem CommandFilter.withoutLimits_eq (f : CommandFilter) : f.withoutLimits = { f with
    commandStream := f.commandStream.map (Linked.map CommandStreamFilter.withoutLimits)
    limit := none } := by
  obtain ⟨_, commandStream, _, _, _, _⟩ := f
  rcases commandStream with _ | _ | _ <;> rw [withoutLimits] <;> rfl

/-! ## The identifiers of a filter -/

theorem DataStreamFilter.idsOnly?_withoutLimits (f : DataStreamFilter) :
    idsOnly? f.withoutLimits = idsOnly? f := by
  simp only [withoutLimits_eq, idsOnly?, Option.isNone_map]

theorem FeatureFilter.idsOnly?_withoutLimits (f : FeatureFilter) :
    idsOnly? f.withoutLimits = idsOnly? f := by
  simp only [withoutLimits_eq, idsOnly?, Option.isNone_map]

theorem SystemFilter.idsOnly?_withoutLimits (f : SystemFilter) :
    idsOnly? f.withoutLimits = idsOnly? f := by
  simp only [withoutLimits_eq, idsOnly?, Option.isNone_map]

theorem CommandStreamFilter.idsOnly?_withoutLimits (f : CommandStreamFilter) :
    idsOnly? f.withoutLimits = idsOnly? f := by
  simp only [withoutLimits_eq, idsOnly?, Option.isNone_map]

/-! ## What a filter contributes -/

section
variable {α β : Type} {c : β → Contribution} {g : α → β}

theorem Contribution.ofOption_map (o : Option α) :
    ofOption c (o.map g) = ofOption (fun a => c (g a)) o := by
  cases o <;> rfl

theorem Contribution.unsupported_map (e : Entity) (field : String) (o : Option α) :
    unsupported e field (o.map g) = unsupported e field o := by
  cases o <;> rfl

end

section
variable {F : Type} [Linkable F] {g : F → F} (hids : ∀ f, idsOnly? (g f) = idsOnly? f)
include hids

/-- A reference is followed in the same way with another filter behind it, if this filter names the
same identifiers and contributes the same where it is joined. -/
theorem Linked.ofExcept_resolve_map {table? : Option String} {entity : Entity} {field : String}
    {c : Resolution F → Contribution}
    (hjoin : ∀ table f, c (.join table (g f)) = c (.join table f)) (link : Linked F) :
    ofExcept c ((link.map g).resolve table? entity field) =
      ofExcept c (link.resolve table? entity field) := by
  cases link with
  | ids s => rfl
  | filter f =>
    cases table? with
    | some table => exact hjoin table f
    | none => simp only [Linked.map, Linked.resolve, hids]

theorem FeatureRow.parentContribution_map (entity : Entity) (table : String) (link : Linked F) :
    parentContribution entity table (link.map g) = parentContribution entity table link := by
  cases link with
  | ids s => rfl
  | filter f => simp only [Linked.map, parentContribution, hids]

end

section
variable (tables : Tables) (root table : String)

theorem FeatureFilter.contribution_withoutLimits (f : FeatureFilter) :
    f.withoutLimits.contribution root table = f.contribution root table := by
  have hparent := FeatureRow.parentContribution_map FeatureFilter.idsOnly?_withoutLimits
    .featureOfInterest table
  simp only [withoutLimits_eq, contribution, ofOption_map, unsupported_map, hparent]

theorem SystemFilter.contribution_withoutLimits (f : SystemFilter) :
    f.withoutLimits.contribution root table = f.contribution root table := by
  have hparent := FeatureRow.parentContribution_map SystemFilter.idsOnly?_withoutLimits .system
    table
  simp only [withoutLimits_eq, contribution, idCondition?, ofOption_map, unsupported_map, hparent]

theorem StreamRow.systemContribution_map (link : Linked SystemFilter) :
    systemContribution tables root table (link.map SystemFilter.withoutLimits) =
      systemContribution tables root table link := by
  refine Linked.ofExcept_resolve_map SystemFilter.idsOnly?_withoutLimits (fun system f => ?_) link
  simp only [f.contribution_withoutLimits]

theorem DataStreamFilter.contribution_withoutLimits (pin : Option Int64) (f : DataStreamFilter) :
    f.withoutLimits.contribution tables root table pin =
      f.contribution tables root table pin := by
  simp only [withoutLimits_eq, contribution, ofOption_map, unsupported_map,
    StreamRow.systemContribution_map]

theorem CommandFilter.scopedContribution_withoutLimits (f : CommandFilter) :
    f.withoutLimits.scopedContribution table = f.scopedContribution table := by
  simp only [withoutLimits_eq, scopedContribution, ownContribution, unsupported_map]

/-- The query of the streams with a matching command has no limit. -/
theorem StreamRow.commandsContribution_withoutLimits (f : CommandFilter) :
    commandsContribution tables table f.withoutLimits = commandsContribution tables table f := by
  simp only [commandsContribution, CommandFilter.matchingStreams,
    CommandFilter.scopedContribution_withoutLimits]

theorem CommandStreamFilter.contribution_withoutLimits (f : CommandStreamFilter) :
    f.withoutLimits.contribution tables root table = f.contribution tables root table := by
  simp only [withoutLimits_eq, contribution, ofOption_map, StreamRow.systemContribution_map,
    StreamRow.commandsContribution_withoutLimits]

theorem CommandRow.streamContribution_map (link : Linked CommandStreamFilter) :
    streamContribution tables root table (link.map CommandStreamFilter.withoutLimits) =
      streamContribution tables root table link := by
  refine Linked.ofExcept_resolve_map CommandStreamFilter.idsOnly?_withoutLimits
    (fun streams f => ?_) link
  simp only [f.contribution_withoutLimits]

theorem CommandFilter.contribution_withoutLimits (f : CommandFilter) :
    f.withoutLimits.contribution tables root table = f.contribution tables root table := by
  simp only [withoutLimits_eq, contribution, ownContribution, ofOption_map,
    CommandRow.streamContribution_map]

namespace ObservationRow

theorem dataStreamContribution_map (pin : Option Int64) (link : Option (Linked DataStreamFilter)) :
    dataStreamContribution tables root table pin
        (link.map (Linked.map DataStreamFilter.withoutLimits)) =
      dataStreamContribution tables root table pin link := by
  cases link with
  | none => rfl
  | some link =>
    refine Linked.ofExcept_resolve_map DataStreamFilter.idsOnly?_withoutLimits
      (fun streams f => ?_) link
    simp only [f.contribution_withoutLimits]

theorem foiContribution_map (time : Option TimeFilter) (link : Linked FeatureFilter) :
    foiContribution tables root table time (link.map FeatureFilter.withoutLimits) =
      foiContribution tables root table time link := by
  refine Linked.ofExcept_resolve_map FeatureFilter.idsOnly?_withoutLimits
    (fun features f => ?_) link
  have hinternal : f.withoutLimits.internalIds = f.internalIds := by rw [f.withoutLimits_eq]
  simp only [f.contribution_withoutLimits, f.idsOnly?_withoutLimits, hinternal]

end ObservationRow

theorem ObservationFilter.contribution_withoutLimits (f : ObservationFilter) :
    f.withoutLimits.contribution tables root table = f.contribution tables root table := by
  simp only [withoutLimits_eq, contribution, ofOption_map,
    ObservationRow.dataStreamContribution_map, ObservationRow.foiContribution_map]

theorem StatisticsFilter.contribution_withoutLimits (f : StatisticsFilter) :
    f.withoutLimits.contribution tables root table = f.contribution tables root table := by
  simp only [withoutLimits, ObservationFilter.withoutLimits_eq, contribution, ofOption_map,
    ObservationRow.dataStreamContribution_map, ObservationRow.foiContribution_map]

namespace Filter

/-- **Limits contribute nothing.** -/
theorem contribution_withoutLimits :
    ∀ f : Filter, f.withoutLimits.contribution tables root table = f.contribution tables root table
  | observation f => f.contribution_withoutLimits tables root table
  | observationStatistics f => f.contribution_withoutLimits tables root table
  | dataStream f => f.contribution_withoutLimits tables root table none
  | featureOfInterest f => f.contribution_withoutLimits root table
  | system f => f.contribution_withoutLimits root table
  | commandStream f => f.contribution_withoutLimits tables root table
  | command f => f.contribution_withoutLimits tables root table

end Filter

end

/-! ## Queries and their limits -/

namespace Filter

variable (f : Filter)

end Filter

end ObservationQuery
