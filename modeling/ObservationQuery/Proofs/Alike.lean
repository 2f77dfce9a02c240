import ObservationQuery.Filter.Basic

/-!
# Filters that differ in places

Two filters are compared criterion by criterion, however deep they are nested. They have to have
the same criteria but for two: times of observations and commands may differ as a relation allows,
and a reference to identifiers may be written as a filter that names them.

* `Nameable` — a filter that can name internal identifiers and hold nothing else but a limit.
* `Linked.Names` — a reference to some identifiers, in either spelling.
* `Tolerance` — what two filters may differ in.
* `Linked.Alike`, `ObservationFilter.Alike`, …, `Filter.Alike` — two references or filters differ in
  nothing else.

Principal results: each filter is alike to itself, as `Filter.Alike.refl`; alike filters hold the
same identifiers, or both hold something else, as `FeatureFilter.Alike.idsOnly?_eq`.
-/

namespace ObservationQuery

/-! ## References to identifiers -/

/-- A filter that can name internal identifiers and hold nothing else but a limit. -/
class Nameable (F : Type) [Linkable F] where
  naming : IdSet → Option UInt64 → F
  idsOnly?_naming : ∀ s limit, idsOnly? (naming s limit) = some ⟨s, ∅⟩

export Nameable (naming idsOnly?_naming)

instance : Nameable DataStreamFilter where
  naming s limit := { internalIds := s, limit := limit }
  idsOnly?_naming _ _ := rfl

instance : Nameable FeatureFilter where
  naming s limit := { internalIds := s, limit := limit }
  idsOnly?_naming _ _ := rfl

instance : Nameable SystemFilter where
  naming s limit := { internalIds := s, limit := limit }
  idsOnly?_naming _ _ := rfl

instance : Nameable CommandStreamFilter where
  naming s limit := { internalIds := s, limit := limit }
  idsOnly?_naming _ _ := rfl

/-- A reference to the identifiers of `s`: bare, or as a filter that names them and holds nothing
else but a limit. -/
inductive Linked.Names {F : Type} [Linkable F] [Nameable F] (s : IdSet) : Linked F → Prop
  | ids : Names s (.ids s)
  | filter (limit : Option UInt64) : Names s (.filter (naming s limit))

/-- What two filters may differ in. -/
structure Tolerance where
  /-- How the times of observations and commands may differ. -/
  moment : TimeFilter → TimeFilter → Prop
  /-- Which identifiers of data streams may be written in either spelling. -/
  dataStream : IdSet → Prop
  foi : IdSet → Prop
  system : IdSet → Prop
  commandStream : IdSet → Prop
  /-- Which identifiers of parents, be they features or systems. -/
  parent : IdSet → Prop

/-- References to the same identifiers or to alike filters. Identifiers that satisfy `spelled` may
be written in either spelling. -/
inductive Linked.Alike {F : Type} [Linkable F] [Nameable F] (spelled : IdSet → Prop)
    (alike : F → F → Prop) : Linked F → Linked F → Prop
  | ids (s : IdSet) : Alike spelled alike (.ids s) (.ids s)
  | filter {f g : F} (h : alike f g) : Alike spelled alike (.filter f) (.filter g)
  | respelled {s : IdSet} {a b : Linked F} (hs : spelled s) (ha : a.Names s) (hb : b.Names s) :
    Alike spelled alike a b

/-! ## Filters by entity -/

section
variable (v : Tolerance)

mutual

/-- Filters on observations that differ in nothing but what is tolerated. -/
inductive ObservationFilter.Alike : ObservationFilter → ObservationFilter → Prop
  | intro {f g : ObservationFilter}
    (dataStream : Option.Rel (Linked.Alike v.dataStream DataStreamFilter.Alike)
      f.dataStream g.dataStream)
    (foi : Option.Rel (Linked.Alike v.foi FeatureFilter.Alike) f.foi g.foi)
    (phenomenonTime : Option.Rel v.moment f.phenomenonTime g.phenomenonTime)
    (resultTime : Option.Rel v.moment f.resultTime g.resultTime)
    (limit : f.limit = g.limit) : ObservationFilter.Alike f g

/-- Filters on data streams that differ in nothing but what is tolerated. -/
inductive DataStreamFilter.Alike : DataStreamFilter → DataStreamFilter → Prop
  | intro {f g : DataStreamFilter}
    (internalIds : f.internalIds = g.internalIds)
    (system : Option.Rel (Linked.Alike v.system SystemFilter.Alike) f.system g.system)
    (fullText : f.fullText = g.fullText)
    (validTime : f.validTime = g.validTime)
    (outputNames : f.outputNames = g.outputNames)
    (observedProperties : f.observedProperties = g.observedProperties)
    (observations : Option.Rel ObservationFilter.Alike f.observations g.observations)
    (limit : f.limit = g.limit) : DataStreamFilter.Alike f g

/-- Filters on features that differ in nothing but what is tolerated. -/
inductive FeatureFilter.Alike : FeatureFilter → FeatureFilter → Prop
  | intro {f g : FeatureFilter}
    (internalIds : f.internalIds = g.internalIds)
    (uniqueIds : f.uniqueIds = g.uniqueIds)
    (parent : Option.Rel (Linked.Alike v.parent FeatureFilter.Alike) f.parent g.parent)
    (observations : Option.Rel ObservationFilter.Alike f.observations g.observations)
    (location : f.location = g.location)
    (sampledFeature : Option.Rel FeatureFilter.Alike f.sampledFeature g.sampledFeature)
    (fullText : f.fullText = g.fullText)
    (validTime : f.validTime = g.validTime)
    (limit : f.limit = g.limit) : FeatureFilter.Alike f g

/-- Filters on systems that differ in nothing but what is tolerated. -/
inductive SystemFilter.Alike : SystemFilter → SystemFilter → Prop
  | intro {f g : SystemFilter}
    (internalIds : f.internalIds = g.internalIds)
    (uniqueIds : f.uniqueIds = g.uniqueIds)
    (includeMembers : f.includeMembers = g.includeMembers)
    (parent : Option.Rel (Linked.Alike v.parent SystemFilter.Alike) f.parent g.parent)
    (procedure : Option.Rel SystemFilter.Alike f.procedure g.procedure)
    (dataStreams : Option.Rel DataStreamFilter.Alike f.dataStreams g.dataStreams)
    (fullText : f.fullText = g.fullText)
    (location : f.location = g.location)
    (validTime : f.validTime = g.validTime)
    (limit : f.limit = g.limit) : SystemFilter.Alike f g

end

/-- Filters for statistics that differ in nothing but what is tolerated. -/
inductive StatisticsFilter.Alike : StatisticsFilter → StatisticsFilter → Prop
  | intro {f g : StatisticsFilter}
    (observations : f.observations.Alike v g.observations)
    (dataStreamId : f.dataStreamId = g.dataStreamId)
    (foiId : f.foiId = g.foiId)
    (limit : f.limit = g.limit) : StatisticsFilter.Alike f g

mutual

/-- Filters on command streams that differ in nothing but what is tolerated. -/
inductive CommandStreamFilter.Alike : CommandStreamFilter → CommandStreamFilter → Prop
  | intro {f g : CommandStreamFilter}
    (internalIds : f.internalIds = g.internalIds)
    (system : Option.Rel (Linked.Alike v.system (SystemFilter.Alike v)) f.system g.system)
    (fullText : f.fullText = g.fullText)
    (validTime : f.validTime = g.validTime)
    (controlInputNames : f.controlInputNames = g.controlInputNames)
    (taskableProperties : f.taskableProperties = g.taskableProperties)
    (commands : Option.Rel CommandFilter.Alike f.commands g.commands)
    (limit : f.limit = g.limit) : CommandStreamFilter.Alike f g

/-- Filters on commands that differ in nothing but what is tolerated. -/
inductive CommandFilter.Alike : CommandFilter → CommandFilter → Prop
  | intro {f g : CommandFilter}
    (internalIds : f.internalIds = g.internalIds)
    (commandStream : Option.Rel (Linked.Alike v.commandStream CommandStreamFilter.Alike)
      f.commandStream g.commandStream)
    (senderIds : f.senderIds = g.senderIds)
    (foiIds : f.foiIds = g.foiIds)
    (issueTime : Option.Rel v.moment f.issueTime g.issueTime)
    (limit : f.limit = g.limit) : CommandFilter.Alike f g

end

/-- Filters of one entity that differ in nothing but what is tolerated. -/
inductive Filter.Alike : Filter → Filter → Prop
  | observation {f g : ObservationFilter} (h : f.Alike v g) :
    Alike (.observation f) (.observation g)
  | observationStatistics {f g : StatisticsFilter} (h : f.Alike v g) :
    Alike (.observationStatistics f) (.observationStatistics g)
  | dataStream {f g : DataStreamFilter} (h : f.Alike v g) : Alike (.dataStream f) (.dataStream g)
  | featureOfInterest {f g : FeatureFilter} (h : f.Alike v g) :
    Alike (.featureOfInterest f) (.featureOfInterest g)
  | system {f g : SystemFilter} (h : f.Alike v g) : Alike (.system f) (.system g)
  | commandStream {f g : CommandStreamFilter} (h : f.Alike v g) :
    Alike (.commandStream f) (.commandStream g)
  | command {f g : CommandFilter} (h : f.Alike v g) : Alike (.command f) (.command g)

end

/-! ## A filter and itself -/

section
variable {v : Tolerance}

theorem Tolerance.moment_rel_refl (hv : ∀ t, v.moment t t) : ∀ o, Option.Rel v.moment o o
  | none => .none
  | some t => .some (hv t)

mutual

theorem ObservationFilter.Alike.refl (hv : ∀ t, v.moment t t) : ∀ f : ObservationFilter, f.Alike v f
  | ⟨dataStream, foi, phenomenonTime, resultTime, _⟩ =>
    have hstream : Option.Rel (Linked.Alike v.dataStream (DataStreamFilter.Alike v)) dataStream
        dataStream := match dataStream with
      | none => .none
      | some (.ids s) => .some (.ids s)
      | some (.filter g) => .some (.filter (DataStreamFilter.Alike.refl hv g))
    have hfoi : Option.Rel (Linked.Alike v.foi (FeatureFilter.Alike v)) foi foi := match foi with
      | none => .none
      | some (.ids s) => .some (.ids s)
      | some (.filter g) => .some (.filter (FeatureFilter.Alike.refl hv g))
    .intro hstream hfoi (v.moment_rel_refl hv phenomenonTime) (v.moment_rel_refl hv resultTime) rfl

theorem DataStreamFilter.Alike.refl (hv : ∀ t, v.moment t t) : ∀ f : DataStreamFilter, f.Alike v f
  | ⟨_, system, _, _, _, _, observations, _⟩ =>
    have hsystem : Option.Rel (Linked.Alike v.system (SystemFilter.Alike v)) system system :=
      match system with
      | none => .none
      | some (.ids s) => .some (.ids s)
      | some (.filter g) => .some (.filter (SystemFilter.Alike.refl hv g))
    have hobservations : Option.Rel (ObservationFilter.Alike v) observations observations :=
      match observations with
      | none => .none
      | some g => .some (ObservationFilter.Alike.refl hv g)
    .intro rfl hsystem rfl rfl rfl rfl hobservations rfl

theorem FeatureFilter.Alike.refl (hv : ∀ t, v.moment t t) : ∀ f : FeatureFilter, f.Alike v f
  | ⟨_, _, parent, observations, _, sampledFeature, _, _, _⟩ =>
    have hparent : Option.Rel (Linked.Alike v.parent (FeatureFilter.Alike v)) parent parent :=
      match parent with
      | none => .none
      | some (.ids s) => .some (.ids s)
      | some (.filter g) => .some (.filter (FeatureFilter.Alike.refl hv g))
    have hobservations : Option.Rel (ObservationFilter.Alike v) observations observations :=
      match observations with
      | none => .none
      | some g => .some (ObservationFilter.Alike.refl hv g)
    have hsampled : Option.Rel (FeatureFilter.Alike v) sampledFeature sampledFeature :=
      match sampledFeature with
      | none => .none
      | some g => .some (FeatureFilter.Alike.refl hv g)
    .intro rfl rfl hparent hobservations rfl hsampled rfl rfl rfl

theorem SystemFilter.Alike.refl (hv : ∀ t, v.moment t t) : ∀ f : SystemFilter, f.Alike v f
  | ⟨_, _, _, parent, procedure, dataStreams, _, _, _, _⟩ =>
    have hparent : Option.Rel (Linked.Alike v.parent (SystemFilter.Alike v)) parent parent :=
      match parent with
      | none => .none
      | some (.ids s) => .some (.ids s)
      | some (.filter g) => .some (.filter (SystemFilter.Alike.refl hv g))
    have hprocedure : Option.Rel (SystemFilter.Alike v) procedure procedure :=
      match procedure with
      | none => .none
      | some g => .some (SystemFilter.Alike.refl hv g)
    have hstreams : Option.Rel (DataStreamFilter.Alike v) dataStreams dataStreams :=
      match dataStreams with
      | none => .none
      | some g => .some (DataStreamFilter.Alike.refl hv g)
    .intro rfl rfl rfl hparent hprocedure hstreams rfl rfl rfl rfl

end

mutual

theorem CommandStreamFilter.Alike.refl (hv : ∀ t, v.moment t t) :
    ∀ f : CommandStreamFilter, f.Alike v f
  | ⟨_, system, _, _, _, _, commands, _⟩ =>
    have hsystem : Option.Rel (Linked.Alike v.system (SystemFilter.Alike v)) system system :=
      match system with
      | none => .none
      | some (.ids s) => .some (.ids s)
      | some (.filter g) => .some (.filter (.refl hv g))
    have hcommands : Option.Rel (CommandFilter.Alike v) commands commands := match commands with
      | none => .none
      | some g => .some (CommandFilter.Alike.refl hv g)
    .intro rfl hsystem rfl rfl rfl rfl hcommands rfl

theorem CommandFilter.Alike.refl (hv : ∀ t, v.moment t t) : ∀ f : CommandFilter, f.Alike v f
  | ⟨_, commandStream, _, _, issueTime, _⟩ =>
    have hstream : Option.Rel (Linked.Alike v.commandStream (CommandStreamFilter.Alike v))
        commandStream commandStream := match commandStream with
      | none => .none
      | some (.ids s) => .some (.ids s)
      | some (.filter g) => .some (.filter (CommandStreamFilter.Alike.refl hv g))
    .intro rfl hstream rfl rfl (v.moment_rel_refl hv issueTime) rfl

end

/-- **A filter differs from itself in nothing.** -/
theorem Filter.Alike.refl (hv : ∀ t, v.moment t t) (f : Filter) : f.Alike v f := by
  cases f with
  | observation f => exact .observation (.refl hv f)
  | observationStatistics f => exact .observationStatistics (.intro (.refl hv _) rfl rfl rfl)
  | dataStream f => exact .dataStream (.refl hv f)
  | featureOfInterest f => exact .featureOfInterest (.refl hv f)
  | system f => exact .system (.refl hv f)
  | commandStream f => exact .commandStream (.refl hv f)
  | command f => exact .command (.refl hv f)

end

/-! ## What alike filters have in common -/

theorem isNone_eq {α β : Type} {r : α → β → Prop} {a : Option α} {b : Option β}
    (h : Option.Rel r a b) : a.isNone = b.isNone := by
  cases h <;> rfl

theorem eq_of_rel {α : Type} {a b : Option α} (h : Option.Rel Eq a b) : a = b := by
  cases h with
  | none => rfl
  | some h => exact congrArg some h

section
variable {v : Tolerance}

theorem DataStreamFilter.Alike.idsOnly?_eq {f g : DataStreamFilter} (h : f.Alike v g) :
    idsOnly? f = idsOnly? g := by
  cases h with
  | intro hids hsystem htext htime hnames hproperties hobservations =>
    simp only [idsOnly?, hids, isNone_eq hsystem, htext, htime, hnames, hproperties,
      isNone_eq hobservations]

theorem FeatureFilter.Alike.idsOnly?_eq {f g : FeatureFilter} (h : f.Alike v g) :
    idsOnly? f = idsOnly? g := by
  cases h with
  | intro hids huids hparent hobservations hplace hsampled htext htime =>
    simp only [idsOnly?, hids, huids, isNone_eq hparent, isNone_eq hobservations, hplace,
      isNone_eq hsampled, htext, htime]

theorem SystemFilter.Alike.idsOnly?_eq {f g : SystemFilter} (h : f.Alike v g) :
    idsOnly? f = idsOnly? g := by
  cases h with
  | intro hids huids hmembers hparent hprocedure hstreams htext hplace htime =>
    simp only [idsOnly?, hids, huids, hmembers, isNone_eq hparent, isNone_eq hprocedure,
      isNone_eq hstreams, htext, hplace, htime]

theorem CommandStreamFilter.Alike.idsOnly?_eq {f g : CommandStreamFilter} (h : f.Alike v g) :
    idsOnly? f = idsOnly? g := by
  cases h with
  | intro hids hsystem htext htime hnames hproperties hcommands =>
    simp only [idsOnly?, hids, isNone_eq hsystem, htext, htime, hnames, hproperties,
      isNone_eq hcommands]

theorem Filter.Alike.entity_eq {f g : Filter} (h : f.Alike v g) : f.entity = g.entity := by
  cases h <;> rfl

theorem Filter.Alike.limit_eq {f g : Filter} (h : f.Alike v g) : f.limit = g.limit := by
  cases h with
  | observation h | dataStream h | featureOfInterest h | system h | commandStream h | command h =>
    cases h
    assumption
  | observationStatistics h =>
    obtain ⟨hobservations, -, -, hlimit⟩ := h
    obtain ⟨-, -, -, -, hinner⟩ := hobservations
    simp only [limit, hlimit, hinner]

end

end ObservationQuery
