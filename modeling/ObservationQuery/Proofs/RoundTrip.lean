import ObservationQuery.Filter.Printer
import ObservationQuery.Filter.Reader
import ObservationQuery.Proofs.Record

/-!
# Filters are read as they are written

* `Linked.toJson` — a reference, given how the filter behind it is written.

Principal result: `Filter.read?_print` — the text of a filter that nests no deeper than the reader
goes is read as this filter.
-/

namespace ObservationQuery

open Json (ReadsBack nullable objectOf fields?_objectOf array?_arrayOf mapM_map plain_arrayOf)

/-! ## Criteria -/

theorem IdSet.readsBack (depth : Nat) : ReadsBack depth (IdSet.ofJson? depth) IdSet.toJson where
  ne_null := nofun
  plain s _ := plain_arrayOf (by intro; trivial) s.toList
  read_write s h := by
    simp only [ofJson?, toJson, array?_arrayOf h, mapM_map Json.int64?_toInt, bind, pure,
      Option.bind_some, SortedSet.ofList_toList]

theorem NameSet.readsBack (depth : Nat) :
    ReadsBack depth (NameSet.ofJson? depth) NameSet.toJson where
  ne_null := nofun
  plain s _ := plain_arrayOf (by intro; rfl) s.toList
  read_write s h := by
    have hread : ∀ name, (Json.text name).string? = some name := fun _ => rfl
    simp only [ofJson?, toJson, array?_arrayOf h, mapM_map hread, bind, pure,
      Option.bind_some, SortedSet.ofList_toList]

theorem integer_field {α : Type} {read : Json → Option α} {value : α → Int}
    (hread : ∀ a, read (.integer (value a)) = some a) (x : Option α) :
    (nullable (fun a => .integer (value a)) x).Plain ∧
      Json.optional read (some (nullable (fun a => .integer (value a)) x)) = some x := by
  cases x with
  | none => exact ⟨trivial, rfl⟩
  | some a => exact ⟨trivial, Json.optional_some (hread a) nofun⟩

theorem limit_field (limit : Option UInt64) :
    (limitJson limit).Plain ∧ Json.optional Json.uint64? (some (limitJson limit)) = some limit :=
  integer_field Json.uint64?_toNat limit

theorem bool_field (b : Bool) :
    (Json.bool b).Plain ∧ Json.defaulting false Json.bool? (some (.bool b)) = some b :=
  ⟨trivial, rfl⟩

theorem Instant.ofJson?_text (t : Instant) : Instant.ofJson? (.text t.text) = some t := by
  simp only [ofJson?, Json.text, Json.string?, bind, Option.bind_some, read?_text]

theorem PeriodRelation.ofName?_name (r : PeriodRelation) : ofName? r.name = some r := by
  cases r <;> rfl

theorem PeriodRelation.ofJson?_name (r : PeriodRelation) : ofJson? (.text r.name) = some r :=
  ofName?_name r

theorem SpatialRelation.ofJson?_name (depth : Nat) (r : SpatialRelation) :
    ofJson? depth (.text r.name) = some r := by
  cases r <;> rfl

namespace TimeFilter

theorem rangeOfJson?_objectOf (first last : Instant) (relation : PeriodRelation) :
    rangeOfJson? (objectOf [("min", .text first.text), ("max", .text last.text),
      ("op", .text relation.name)]) = some (.range first last relation) := by
  rw [rangeOfJson?, fields?_objectOf]
  · simp only [List.map_cons, List.map_nil, Json.required, Json.defaulting, Instant.ofJson?_text,
      PeriodRelation.ofJson?_name, bind, pure, Option.bind_some]
  · rfl
  · decide

theorem readsBack (depth : Nat) : ReadsBack depth (ofJson? depth) toJson where
  ne_null t := by cases t <;> nofun
  plain t _ := by
    cases t with
    | latest => exact ⟨rfl, rfl, trivial⟩
    | range first last relation => exact ⟨rfl, rfl, rfl, rfl, rfl, rfl, rfl, rfl, trivial⟩
  read_write t h := by
    cases depth with
    | zero => cases t <;> exact absurd h Json.nesting_objectOf_ne
    | succ depth =>
      have hfits : ∀ s,
        Json.fits depth (.string (some s)) = true := by cases depth <;> intro <;> rfl
      cases t with
      | latest => rfl
      | range first last relation =>
        rw [← rangeOfJson?_objectOf]
        simp [ofJson?, toJson, objectOf, Json.text, hfits, ofKind?]

end TimeFilter

theorem SpatialFilter.readsBack : ∀ depth,
    ReadsBack depth (SpatialFilter.ofJson? depth) SpatialFilter.toJson
  | 0 => .zero fun _ => rfl
  | depth + 1 => .objectOf (fun _ => rfl) fun f _ => by
    refine ⟨by simp [Json.text, Json.Plain], ?_⟩
    rw [ofJson?, fields?_objectOf]
    · simp only [List.map_cons, List.map_nil, Json.required, Json.defaulting, Json.int32?_toInt,
        SpatialRelation.ofJson?_name, bind, pure, Option.bind_some]
      rfl
    · rfl
    · decide

theorem TextFilter.readsBack : ∀ depth,
    ReadsBack depth (TextFilter.ofJson? depth) TextFilter.toJson
  | 0 => .zero fun _ => rfl
  | depth + 1 => .objectOf (fun _ => rfl) fun f h => by
    simp only [List.forall_mem_cons] at h
    have hread : ∀ keyword, (Json.text keyword).string? = some keyword := fun _ => rfl
    refine ⟨by simpa using plain_arrayOf (by intro; rfl) f.keywords, ?_⟩
    rw [ofJson?, fields?_objectOf]
    · simp only [List.map_cons, List.map_nil, Json.required, array?_arrayOf h.1, mapM_map hread,
        bind, pure, Option.bind_some]
    · rfl
    · decide

/-! ## References -/

/-- The value of a reference, given how the filter behind it is written. -/
def Linked.toJson {F : Type} (write : F → Json) : Linked F → Json
  | .ids s => objectOf [("ids", IdSet.toJson s)]
  | .filter f => objectOf [("filter", write f)]

theorem dataStreamLinkJson_eq (link : Option (Linked DataStreamFilter)) :
    dataStreamLinkJson link = nullable (Linked.toJson DataStreamFilter.toJson) link := by
  rcases link with _ | _ | _ <;> simp only [dataStreamLinkJson] <;> rfl

theorem featureLinkJson_eq (link : Option (Linked FeatureFilter)) :
    featureLinkJson link = nullable (Linked.toJson FeatureFilter.toJson) link := by
  rcases link with _ | _ | _ <;> simp only [featureLinkJson] <;> rfl

theorem systemLinkJson_eq (link : Option (Linked SystemFilter)) :
    systemLinkJson link = nullable (Linked.toJson SystemFilter.toJson) link := by
  rcases link with _ | _ | _ <;> simp only [systemLinkJson] <;> rfl

theorem commandStreamLinkJson_eq (link : Option (Linked CommandStreamFilter)) :
    commandStreamLinkJson link = nullable (Linked.toJson CommandStreamFilter.toJson) link := by
  rcases link with _ | _ | _ <;> simp only [commandStreamLinkJson] <;> rfl

theorem Linked.readsBack_zero {F : Type} {read : Json → Option (Linked F)} {write : F → Json} :
    ReadsBack 0 read (Linked.toJson write) where
  ne_null link := by cases link <;> nofun
  plain link h := by cases link <;> exact absurd h Json.nesting_objectOf_ne
  read_write link h := by cases link <;> exact absurd h Json.nesting_objectOf_ne

/-- A reference takes one level more than the filter behind it. -/
theorem Linked.readsBack {F : Type} {depth : Nat} {read : Json → Option F} {write : F → Json}
    (h : ReadsBack depth read write) :
    ReadsBack (depth + 1) (Linked.ofJson? (IdSet.ofJson? depth) read) (Linked.toJson write) where
  ne_null link := by cases link <;> nofun
  plain link hnesting := by
    cases link with
    | ids s => exact ⟨rfl, plain_arrayOf (by intro; trivial) s.toList, trivial⟩
    | filter f =>
      rw [toJson, Json.nesting_objectOf, List.forall_mem_singleton] at hnesting
      exact ⟨rfl, h.plain f hnesting, trivial⟩
  read_write link hnesting := by
    cases link with
    | ids s =>
      rw [toJson, Json.nesting_objectOf, List.forall_mem_singleton] at hnesting
      have hread := (IdSet.readsBack depth).read_write s hnesting
      simp only [toJson, objectOf, List.map_cons, List.map_nil, ofJson?, hread, Option.map_some]
    | filter f =>
      rw [toJson, Json.nesting_objectOf, List.forall_mem_singleton] at hnesting
      have hread := h.read_write f hnesting
      simp only [toJson, objectOf, List.map_cons, List.map_nil, ofJson?, hread, Option.map_some]

/-! ## Filters

What stands in a filter has one level less than the filter, as its criteria are read with one level
less: the families below are inductions on the depth.
-/

theorem ObservationFilter.toJson_eq (f : ObservationFilter) : f.toJson = objectOf [
    ("dataStream", nullable (Linked.toJson DataStreamFilter.toJson) f.dataStream),
    ("foi", nullable (Linked.toJson FeatureFilter.toJson) f.foi),
    ("phenomenonTime", nullable TimeFilter.toJson f.phenomenonTime),
    ("resultTime", nullable TimeFilter.toJson f.resultTime),
    ("limit", limitJson f.limit)] := by
  obtain ⟨_, _, _, _, _⟩ := f
  rw [ObservationFilter.toJson, dataStreamLinkJson_eq, featureLinkJson_eq]

theorem DataStreamFilter.toJson_eq (f : DataStreamFilter) : f.toJson = objectOf [
    ("internalIds", IdSet.toJson f.internalIds),
    ("system", nullable (Linked.toJson SystemFilter.toJson) f.system),
    ("fullText", nullable TextFilter.toJson f.fullText),
    ("validTime", nullable TimeFilter.toJson f.validTime),
    ("outputNames", NameSet.toJson f.outputNames),
    ("observedProperties", NameSet.toJson f.observedProperties),
    ("observations", nullable ObservationFilter.toJson f.observations),
    ("limit", limitJson f.limit)] := by
  obtain ⟨_, _, _, _, _, _, observations, _⟩ := f
  cases observations <;> rw [DataStreamFilter.toJson, systemLinkJson_eq] <;> rfl

theorem FeatureFilter.toJson_eq (f : FeatureFilter) : f.toJson = objectOf [
    ("internalIds", IdSet.toJson f.internalIds),
    ("uniqueIds", NameSet.toJson f.uniqueIds),
    ("parent", nullable (Linked.toJson FeatureFilter.toJson) f.parent),
    ("observations", nullable ObservationFilter.toJson f.observations),
    ("location", nullable SpatialFilter.toJson f.location),
    ("sampledFeature", nullable FeatureFilter.toJson f.sampledFeature),
    ("fullText", nullable TextFilter.toJson f.fullText),
    ("validTime", nullable TimeFilter.toJson f.validTime),
    ("limit", limitJson f.limit)] := by
  obtain ⟨_, _, _, observations, _, sampledFeature, _, _, _⟩ := f
  cases observations <;> cases sampledFeature <;>
    rw [FeatureFilter.toJson, featureLinkJson_eq] <;> rfl

theorem SystemFilter.toJson_eq (f : SystemFilter) : f.toJson = objectOf [
    ("internalIds", IdSet.toJson f.internalIds),
    ("uniqueIds", NameSet.toJson f.uniqueIds),
    ("includeMembers", .bool f.includeMembers),
    ("parent", nullable (Linked.toJson SystemFilter.toJson) f.parent),
    ("procedure", nullable SystemFilter.toJson f.procedure),
    ("dataStreams", nullable DataStreamFilter.toJson f.dataStreams),
    ("fullText", nullable TextFilter.toJson f.fullText),
    ("location", nullable SpatialFilter.toJson f.location),
    ("validTime", nullable TimeFilter.toJson f.validTime),
    ("limit", limitJson f.limit)] := by
  obtain ⟨_, _, _, _, procedure, dataStreams, _, _, _, _⟩ := f
  cases procedure <;> cases dataStreams <;> rw [SystemFilter.toJson, systemLinkJson_eq] <;> rfl

theorem CommandStreamFilter.toJson_eq (f : CommandStreamFilter) : f.toJson = objectOf [
    ("internalIds", IdSet.toJson f.internalIds),
    ("system", nullable (Linked.toJson SystemFilter.toJson) f.system),
    ("fullText", nullable TextFilter.toJson f.fullText),
    ("validTime", nullable TimeFilter.toJson f.validTime),
    ("controlInputNames", NameSet.toJson f.controlInputNames),
    ("taskableProperties", NameSet.toJson f.taskableProperties),
    ("commands", nullable CommandFilter.toJson f.commands),
    ("limit", limitJson f.limit)] := by
  obtain ⟨_, _, _, _, _, _, commands, _⟩ := f
  cases commands <;> rw [CommandStreamFilter.toJson, systemLinkJson_eq] <;> rfl

theorem CommandFilter.toJson_eq (f : CommandFilter) : f.toJson = objectOf [
    ("internalIds", IdSet.toJson f.internalIds),
    ("commandStream", nullable (Linked.toJson CommandStreamFilter.toJson) f.commandStream),
    ("senderIds", NameSet.toJson f.senderIds),
    ("foiIds", IdSet.toJson f.foiIds),
    ("issueTime", nullable TimeFilter.toJson f.issueTime),
    ("limit", limitJson f.limit)] := by
  obtain ⟨_, _, _, _, _, _⟩ := f
  rw [CommandFilter.toJson, commandStreamLinkJson_eq]

mutual

theorem ObservationFilter.readsBack : ∀ depth,
    ReadsBack depth (ObservationFilter.ofJson? depth) ObservationFilter.toJson
  | 0 => .zero ObservationFilter.toJson_eq
  | depth + 1 => .objectOf ObservationFilter.toJson_eq fun f h => by
    simp only [List.forall_mem_cons] at h
    obtain ⟨hstream, hfoi, hphenomenon, hresult, -, -⟩ := h
    have stream := (dataStreamLink?_readsBack depth).optional f.dataStream hstream
    have foi := (featureLink?_readsBack depth).optional f.foi hfoi
    have phenomenon := (TimeFilter.readsBack depth).optional f.phenomenonTime hphenomenon
    have result := (TimeFilter.readsBack depth).optional f.resultTime hresult
    have limit := limit_field f.limit
    refine ⟨by simp [stream.1, foi.1, phenomenon.1, result.1, limit.1], ?_⟩
    rw [ObservationFilter.ofJson?, fields?_objectOf]
    · simp only [List.map_cons, List.map_nil, stream.2, foi.2, phenomenon.2, result.2, limit.2,
        bind, pure, Option.bind_some]
      cases f
      rfl
    · rfl
    · decide

theorem DataStreamFilter.readsBack : ∀ depth,
    ReadsBack depth (DataStreamFilter.ofJson? depth) DataStreamFilter.toJson
  | 0 => .zero DataStreamFilter.toJson_eq
  | depth + 1 => .objectOf DataStreamFilter.toJson_eq fun f h => by
    simp only [List.forall_mem_cons] at h
    obtain ⟨hids, hsystem, hsearch, hvalid, hnames, hproperties, hobservations, -, -⟩ := h
    have ids := (IdSet.readsBack depth).defaulting ∅ f.internalIds hids
    have system := (systemLink?_readsBack depth).optional f.system hsystem
    have search := (TextFilter.readsBack depth).optional f.fullText hsearch
    have valid := (TimeFilter.readsBack depth).optional f.validTime hvalid
    have names := (NameSet.readsBack depth).defaulting ∅ f.outputNames hnames
    have properties := (NameSet.readsBack depth).defaulting ∅ f.observedProperties hproperties
    have observations := (ObservationFilter.readsBack depth).optional f.observations hobservations
    have limit := limit_field f.limit
    refine ⟨by simp [ids.1, system.1, search.1, valid.1, names.1, properties.1, observations.1,
      limit.1], ?_⟩
    rw [DataStreamFilter.ofJson?, fields?_objectOf]
    · simp only [List.map_cons, List.map_nil, ids.2, system.2, search.2, valid.2, names.2,
        properties.2, observations.2, limit.2, bind, pure, Option.bind_some]
      cases f
      rfl
    · rfl
    · decide

theorem FeatureFilter.readsBack : ∀ depth,
    ReadsBack depth (FeatureFilter.ofJson? depth) FeatureFilter.toJson
  | 0 => .zero FeatureFilter.toJson_eq
  | depth + 1 => .objectOf FeatureFilter.toJson_eq fun f h => by
    simp only [List.forall_mem_cons] at h
    obtain ⟨hids, huids, hparent, hobservations, hlocation, hsampled, hsearch, hvalid, -, -⟩ := h
    have ids := (IdSet.readsBack depth).defaulting ∅ f.internalIds hids
    have uids := (NameSet.readsBack depth).defaulting ∅ f.uniqueIds huids
    have parent := (featureLink?_readsBack depth).optional f.parent hparent
    have observations := (ObservationFilter.readsBack depth).optional f.observations hobservations
    have location := (SpatialFilter.readsBack depth).optional f.location hlocation
    have sampled := (FeatureFilter.readsBack depth).optional f.sampledFeature hsampled
    have search := (TextFilter.readsBack depth).optional f.fullText hsearch
    have valid := (TimeFilter.readsBack depth).optional f.validTime hvalid
    have limit := limit_field f.limit
    refine ⟨by simp [ids.1, uids.1, parent.1, observations.1, location.1, sampled.1, search.1,
      valid.1, limit.1], ?_⟩
    rw [FeatureFilter.ofJson?, fields?_objectOf]
    · simp only [List.map_cons, List.map_nil, ids.2, uids.2, parent.2, observations.2, location.2,
        sampled.2, search.2, valid.2, limit.2, bind, pure, Option.bind_some]
      cases f
      rfl
    · rfl
    · decide

theorem SystemFilter.readsBack : ∀ depth,
    ReadsBack depth (SystemFilter.ofJson? depth) SystemFilter.toJson
  | 0 => .zero SystemFilter.toJson_eq
  | depth + 1 => .objectOf SystemFilter.toJson_eq fun f h => by
    simp only [List.forall_mem_cons] at h
    obtain ⟨hids, huids, -, hparent, hprocedure, hstreams, hsearch, hlocation, hvalid, -, -⟩ := h
    have ids := (IdSet.readsBack depth).defaulting ∅ f.internalIds hids
    have uids := (NameSet.readsBack depth).defaulting ∅ f.uniqueIds huids
    have members := bool_field f.includeMembers
    have parent := (systemLink?_readsBack depth).optional f.parent hparent
    have procedure := (SystemFilter.readsBack depth).optional f.procedure hprocedure
    have streams := (DataStreamFilter.readsBack depth).optional f.dataStreams hstreams
    have search := (TextFilter.readsBack depth).optional f.fullText hsearch
    have location := (SpatialFilter.readsBack depth).optional f.location hlocation
    have valid := (TimeFilter.readsBack depth).optional f.validTime hvalid
    have limit := limit_field f.limit
    refine ⟨by simp [ids.1, uids.1, members.1, parent.1, procedure.1, streams.1, search.1,
      location.1, valid.1, limit.1], ?_⟩
    rw [SystemFilter.ofJson?, fields?_objectOf]
    · simp only [List.map_cons, List.map_nil, ids.2, uids.2, members.2, parent.2, procedure.2,
        streams.2, search.2, location.2, valid.2, limit.2, bind, pure, Option.bind_some]
      cases f
      rfl
    · rfl
    · decide

theorem dataStreamLink?_readsBack : ∀ depth,
    ReadsBack depth (dataStreamLink? depth) (Linked.toJson DataStreamFilter.toJson)
  | 0 => Linked.readsBack_zero
  | depth + 1 => Linked.readsBack (DataStreamFilter.readsBack depth)

theorem featureLink?_readsBack : ∀ depth,
    ReadsBack depth (featureLink? depth) (Linked.toJson FeatureFilter.toJson)
  | 0 => Linked.readsBack_zero
  | depth + 1 => Linked.readsBack (FeatureFilter.readsBack depth)

theorem systemLink?_readsBack : ∀ depth,
    ReadsBack depth (systemLink? depth) (Linked.toJson SystemFilter.toJson)
  | 0 => Linked.readsBack_zero
  | depth + 1 => Linked.readsBack (SystemFilter.readsBack depth)

end

mutual

theorem CommandStreamFilter.readsBack : ∀ depth,
    ReadsBack depth (CommandStreamFilter.ofJson? depth) CommandStreamFilter.toJson
  | 0 => .zero CommandStreamFilter.toJson_eq
  | depth + 1 => .objectOf CommandStreamFilter.toJson_eq fun f h => by
    simp only [List.forall_mem_cons] at h
    obtain ⟨hids, hsystem, hsearch, hvalid, hnames, hproperties, hcommands, -, -⟩ := h
    have ids := (IdSet.readsBack depth).defaulting ∅ f.internalIds hids
    have system := (systemLink?_readsBack depth).optional f.system hsystem
    have search := (TextFilter.readsBack depth).optional f.fullText hsearch
    have valid := (TimeFilter.readsBack depth).optional f.validTime hvalid
    have names := (NameSet.readsBack depth).defaulting ∅ f.controlInputNames hnames
    have properties := (NameSet.readsBack depth).defaulting ∅ f.taskableProperties hproperties
    have commands := (CommandFilter.readsBack depth).optional f.commands hcommands
    have limit := limit_field f.limit
    refine ⟨by simp [ids.1, system.1, search.1, valid.1, names.1, properties.1, commands.1,
      limit.1], ?_⟩
    rw [CommandStreamFilter.ofJson?, fields?_objectOf]
    · simp only [List.map_cons, List.map_nil, ids.2, system.2, search.2, valid.2, names.2,
        properties.2, commands.2, limit.2, bind, pure, Option.bind_some]
      cases f
      rfl
    · rfl
    · decide

theorem CommandFilter.readsBack : ∀ depth,
    ReadsBack depth (CommandFilter.ofJson? depth) CommandFilter.toJson
  | 0 => .zero CommandFilter.toJson_eq
  | depth + 1 => .objectOf CommandFilter.toJson_eq fun f h => by
    simp only [List.forall_mem_cons] at h
    obtain ⟨hids, hstream, hsenders, hfois, hissued, -, -⟩ := h
    have ids := (IdSet.readsBack depth).defaulting ∅ f.internalIds hids
    have stream := (commandStreamLink?_readsBack depth).optional f.commandStream hstream
    have senders := (NameSet.readsBack depth).defaulting ∅ f.senderIds hsenders
    have fois := (IdSet.readsBack depth).defaulting ∅ f.foiIds hfois
    have issued := (TimeFilter.readsBack depth).optional f.issueTime hissued
    have limit := limit_field f.limit
    refine ⟨by simp [ids.1, stream.1, senders.1, fois.1, issued.1, limit.1], ?_⟩
    rw [CommandFilter.ofJson?, fields?_objectOf]
    · simp only [List.map_cons, List.map_nil, ids.2, stream.2, senders.2, fois.2, issued.2,
        limit.2, bind, pure, Option.bind_some]
      cases f
      rfl
    · rfl
    · decide

theorem commandStreamLink?_readsBack : ∀ depth,
    ReadsBack depth (commandStreamLink? depth) (Linked.toJson CommandStreamFilter.toJson)
  | 0 => Linked.readsBack_zero
  | depth + 1 => Linked.readsBack (CommandStreamFilter.readsBack depth)

end

theorem StatisticsFilter.readsBack : ∀ depth,
    ReadsBack depth (StatisticsFilter.ofJson? depth) StatisticsFilter.toJson
  | 0 => .zero fun _ => rfl
  | depth + 1 => .objectOf (fun _ => rfl) fun f h => by
    simp only [List.forall_mem_cons] at h
    have observations := (ObservationFilter.readsBack depth).defaulting {} f.observations h.1
    have stream := integer_field Json.int64?_toInt f.dataStreamId
    have foi := integer_field Json.int64?_toInt f.foiId
    have limit := limit_field f.limit
    refine ⟨by simp [observations.1, stream.1, foi.1, limit.1], ?_⟩
    rw [StatisticsFilter.ofJson?, fields?_objectOf]
    · simp only [List.map_cons, List.map_nil, observations.2, stream.2, foi.2, limit.2, bind, pure,
        Option.bind_some]
    · rfl
    · decide

namespace Filter

end Filter

end ObservationQuery
