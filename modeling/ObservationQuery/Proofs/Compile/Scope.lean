import ObservationQuery.Proofs.Compile.Parts

/-!
# The tables that filters read

Each filter reads its own table and the tables it joins. A filter on a linked entity reads the table
joined for it, and a query inside a condition reads a table of its own.

* `FeatureRow.reads_versions`, `StreamRow.reads_versions`, … — the rows that criteria on times
  select from.

Principal results: `FeatureFilter.reads_contribution`, … — one for each filter, and
`Filter.reads_contribution` for a filter of any entity.
-/

namespace ObservationQuery

variable {scope : List String} {tables : Tables} {root table : String}

/-- Where no entry is invalid, each entity has a table with a table name. -/
theorem Tables.isTableName_of_table? (h : tables.invalidEntry? = none) {e : Entity}
    (ht : tables.table? e = some table) : isTableName table = true := by
  have hstored : ∃ s ∈ Entity.stored, tables.table? s = some table := by
    cases e with
    | observationStatistics => exact ⟨.observation, by decide, ht⟩
    | observation => exact ⟨_, by decide, ht⟩
    | dataStream => exact ⟨_, by decide, ht⟩
    | featureOfInterest => exact ⟨_, by decide, ht⟩
    | system => exact ⟨_, by decide, ht⟩
    | commandStream => exact ⟨_, by decide, ht⟩
    | command => exact ⟨_, by decide, ht⟩
  obtain ⟨s, hs, hst⟩ := hstored
  have hentry : (s, table) ∈ tables.entries :=
    List.mem_filterMap.mpr ⟨s, hs, by rw [hst, Option.map_some]⟩
  have hvalid := List.find?_eq_none.mp h _ hentry
  simpa using hvalid

/-- A reference reads its scope where each of the ways to follow it does. The joined table has a
table name. -/
theorem Linked.reads_resolve {F : Type} [Linkable F] {link : Linked F} {entity : Entity}
    {field : String} {c : Resolution F → Contribution} (hT : tables.invalidEntry? = none)
    (hjoin : ∀ table f, isTableName table = true → (c (.join table f)).Reads scope)
    (hflat : ∀ ids, (c (.flat ids)).Reads scope) :
    (Contribution.ofExcept c (link.resolve (tables.table? entity) entity field)).Reads scope := by
  refine .ofExcept fun resolution hres => ?_
  cases resolution with
  | join table filter =>
    have htable := (Linked.resolve_eq_join.mp hres).2
    exact hjoin table filter (Tables.isTableName_of_table? hT htable)
  | flat ids => exact hflat ids

instance PathStep.decidableKnown : (s : PathStep) → Decidable s.Known
  | .member name => inferInstanceAs (Decidable (name ∈ documentMembers))
  | .item _ => isTrue trivial

theorem Expr.reads_column {name : String} (h : table ∈ scope)
    (hn : isIdentifier name.toList = true) : (column table name).Reads scope := ⟨h, hn⟩

theorem Expr.reads_documentText {path : List PathStep} (h : table ∈ scope)
    (hp : ∀ s ∈ path, s.Known) : (documentText table path).Reads scope := ⟨h, hp⟩

open Contribution

/-! ## Features and systems -/

namespace FeatureRow

theorem reads_id (h : table ∈ scope) : (id table).Reads scope := Expr.reads_column h (by decide)

theorem reads_parentId (h : table ∈ scope) : (parentId table).Reads scope :=
  Expr.reads_column h (by decide)

theorem reads_versions (h : isTableName table = true) : (versions table).Reads := by
  have hmem : table ∈ [table] := List.mem_singleton_self table
  have hid := reads_id hmem
  have hstart : (validStart table).Reads [table] := Expr.reads_documentText hmem (by decide)
  have hstop : (validStop table).Reads [table] := Expr.reads_documentText hmem (by decide)
  have hsince : (validSince table).Reads [table] := hstart
  refine ⟨h, ?_, ?_, ?_⟩
  · exact List.forall_mem_cons.mpr ⟨hid, List.forall_mem_singleton.mpr hsince⟩
  · exact List.forall_mem_cons.mpr ⟨hstart, List.forall_mem_cons.mpr ⟨hstop,
      List.forall_mem_singleton.mpr hsince⟩⟩
  · exact List.forall_mem_singleton.mpr hid

theorem reads_parentContribution {F : Type} [Linkable F] (e : Entity) (h : table ∈ scope)
    (link : Linked F) : (parentContribution e table link).Reads scope := by
  have hids : ∀ ids, (Contribution.condition? (Condition.hasId (parentId table) ids)).Reads scope :=
    fun ids => .condition? (Condition.reads_hasId (reads_parentId h) ids)
  cases link with
  | ids ids => exact hids ids
  | filter filter =>
    unfold parentContribution
    dsimp only
    split
    · split
      · exact hids _
      · exact .fail _
    · exact .fail _

theorem reads_uniqueIdContribution (h : table ∈ scope) (uids : NameSet) :
    (uniqueIdContribution table uids).Reads scope := by
  have huid : (uniqueId table).Reads scope := by
    show (property table "uid").Reads scope
    exact Expr.reads_documentText h (by decide)
  exact .condition? (Condition.reads_hasUniqueId huid uids)

theorem reads_locationContribution (h : table ∈ scope) (place : SpatialFilter) :
    (locationContribution table place).Reads scope :=
  .ofExcept fun _ hc => .condition (Condition.reads_isPlaced (Expr.reads_column h (by decide)) hc)

theorem reads_fullTextContribution (h : table ∈ scope) (search : TextFilter) :
    (fullTextContribution table search).Reads scope := by
  have hname : (property table "name").Reads scope := Expr.reads_documentText h (by decide)
  have hdescription : (property table "description").Reads scope :=
    Expr.reads_documentText h (by decide)
  refine .ofExcept fun c hc => .condition (Condition.reads_mentions ?_ hc)
  exact List.forall_mem_cons.mpr ⟨hname, List.forall_mem_singleton.mpr hdescription⟩

theorem reads_validTimeContribution (ht : isTableName table = true) (h : table ∈ scope)
    (time : TimeFilter) : (validTimeContribution root table time).Reads scope :=
  time.reads_contribution root (reads_versions ht) h

end FeatureRow

open FeatureRow in
theorem FeatureFilter.reads_contribution (ht : isTableName table = true) (h : table ∈ scope)
    (f : FeatureFilter) : (f.contribution root table).Reads scope := by
  refine Reads.all ⟨?_, .unsupported _ _ _, .unsupported _ _ _, ?_, ?_, ?_, ?_, ?_⟩
  · exact .ofOption fun link _ => reads_parentContribution _ h link
  · exact .condition? (Condition.reads_hasId (FeatureRow.reads_id h) _)
  · exact reads_uniqueIdContribution h _
  · exact .ofOption fun place _ => reads_locationContribution h place
  · exact .ofOption fun search _ => reads_fullTextContribution h search
  · exact .ofOption fun time _ => reads_validTimeContribution ht h time

open FeatureRow in
theorem SystemFilter.reads_contribution (ht : isTableName table = true) (h : table ∈ scope)
    (f : SystemFilter) : (f.contribution root table).Reads scope := by
  have hids : ∀ c ∈ f.idCondition? table, c.Reads scope := by
    refine Condition.reads_anyOf? fun p hp => ?_
    rcases List.mem_append.mp hp with hp | hp
    · exact Condition.reads_idTests (FeatureRow.reads_id h) _ p hp
    · split at hp
      · exact Condition.reads_idTests (reads_parentId h) _ p hp
      · cases hp
  refine Reads.all ⟨?_, .unsupported _ _ _, .unsupported _ _ _, .condition? hids, ?_, ?_, ?_, ?_⟩
  · exact .ofOption fun link _ => reads_parentContribution _ h link
  · exact reads_uniqueIdContribution h _
  · exact .ofOption fun place _ => reads_locationContribution h place
  · exact .ofOption fun search _ => reads_fullTextContribution h search
  · exact .ofOption fun time _ => reads_validTimeContribution ht h time

/-! ## Streams -/

namespace StreamRow

theorem reads_id (h : table ∈ scope) : (id table).Reads scope := Expr.reads_column h (by decide)

theorem reads_systemId (h : table ∈ scope) : (systemId table).Reads scope := by
  have hid : (Expr.documentText table [.member "system@id", .member "internalID",
    .member "id"]).Reads scope := Expr.reads_documentText h (by decide)
  exact hid

theorem reads_systemUniqueId (h : table ∈ scope) : (systemUniqueId table).Reads scope := by
  have hid : (Expr.documentText table [.member "system@id", .member "uniqueID"]).Reads scope :=
    Expr.reads_documentText h (by decide)
  exact hid

theorem reads_text (h : table ∈ scope) {member : String} (hm : member ∈ documentMembers) :
    (text table member).Reads scope := ⟨h, by simpa [PathStep.Known] using hm⟩

theorem reads_versions (h : isTableName table = true) : (versions table).Reads := by
  have hmem : table ∈ [table] := List.mem_singleton_self table
  have hstart : (validStart table).Reads [table] := Expr.reads_documentText hmem (by decide)
  have hstop : (validStop table).Reads [table] := Expr.reads_documentText hmem (by decide)
  have huntil : (validUntil table).Reads [table] := hstop
  refine ⟨h, List.forall_mem_singleton.mpr (reads_id hmem), ?_, ?_⟩
  · exact List.forall_mem_cons.mpr ⟨hstart, List.forall_mem_cons.mpr ⟨hstop,
      List.forall_mem_singleton.mpr huntil⟩⟩
  · exact List.forall_mem_cons.mpr ⟨reads_text hmem (by decide),
      List.forall_mem_singleton.mpr (reads_systemId hmem)⟩

theorem reads_systemContribution (hT : tables.invalidEntry? = none) (h : table ∈ scope)
    (link : Linked SystemFilter) : (systemContribution tables root table link).Reads scope := by
  refine Linked.reads_resolve hT (fun system filter hsystem => ?_) fun ids => ?_
  · refine .join ⟨hsystem, _, _, rfl, reads_systemId h, FeatureRow.reads_id ?_⟩ ?_
    · exact List.mem_singleton_self system
    · exact filter.reads_contribution hsystem List.mem_cons_self
  · exact .append (.condition? (Condition.reads_hasId (reads_systemId h) _))
      (.condition? (Condition.reads_hasUniqueId (reads_systemUniqueId h) _))

theorem reads_fullTextContribution (h : table ∈ scope) (search : TextFilter) :
    (fullTextContribution table search).Reads scope := by
  have hdescription : (recordDescription table).Reads scope :=
    Expr.reads_documentText h (by decide)
  refine .ofExcept fun c hc => .condition (Condition.reads_mentions ?_ hc)
  exact List.forall_mem_singleton.mpr hdescription

theorem reads_propertyContribution (h : table ∈ scope) (uris : NameSet) :
    (propertyContribution table uris).Reads scope :=
  .condition? (Condition.reads_hasProperty (Expr.reads_column h (by decide)) uris)

theorem reads_nameContribution (h : table ∈ scope) {member : String}
    (hm : member ∈ documentMembers) (names : NameSet) :
    (nameContribution table member names).Reads scope :=
  .condition? (Condition.reads_hasName (reads_text h hm) names)

theorem reads_validTimeContribution (ht : isTableName table = true) (h : table ∈ scope)
    (time : TimeFilter) : (validTimeContribution root table time).Reads scope :=
  time.reads_contribution root (reads_versions ht) h

end StreamRow

open StreamRow in
theorem DataStreamFilter.reads_contribution (hT : tables.invalidEntry? = none)
    (ht : isTableName table = true) (h : table ∈ scope) (pin : Option Int64)
    (f : DataStreamFilter) : (f.contribution tables root table pin).Reads scope := by
  refine Reads.all ⟨?_, .unsupported _ _ _, ?_, ?_, ?_, ?_, ?_⟩
  · exact .ofOption fun link _ => reads_systemContribution hT h link
  · cases pin with
    | none => exact .condition? (Condition.reads_hasId (StreamRow.reads_id h) _)
    | some stream => exact .condition (Condition.reads_isId (StreamRow.reads_id h) stream)
  · exact .ofOption fun search _ => StreamRow.reads_fullTextContribution h search
  · exact reads_nameContribution h (by decide) _
  · exact reads_propertyContribution h _
  · exact .ofOption fun time _ => StreamRow.reads_validTimeContribution ht h time

/-! ## Commands -/

namespace CommandRow

theorem reads_id (h : table ∈ scope) : (id table).Reads scope := Expr.reads_column h (by decide)

theorem reads_streamId (h : table ∈ scope) : (streamId table).Reads scope :=
  Expr.reads_column h (by decide)

theorem reads_issued (h : isTableName table = true) : (issued table).Reads := by
  have hmem : table ∈ [table] := List.mem_singleton_self table
  refine ⟨h, ?_, ?_, ?_⟩
  · exact List.forall_mem_singleton.mpr (reads_id hmem)
  · exact List.forall_mem_singleton.mpr (Expr.reads_column hmem (by decide))
  · exact List.forall_mem_singleton.mpr (reads_streamId hmem)

end CommandRow

open CommandRow in
theorem CommandFilter.reads_ownContribution (ht : isTableName table = true) (h : table ∈ scope)
    (f : CommandFilter) : (f.ownContribution root table).Reads scope := by
  refine Reads.all ⟨?_, ?_, ?_, ?_⟩
  · exact .condition? (Condition.reads_hasId (CommandRow.reads_id h) _)
  · exact .condition? (Condition.reads_hasName (Expr.reads_column h (by decide)) _)
  · exact .condition? (Condition.reads_hasFeature (Expr.reads_column h (by decide)) _)
  · exact .ofOption fun time _ => time.reads_contribution root (reads_issued ht) h

/-- The query of the streams that have a matching command reads the commands only. -/
theorem CommandFilter.matchingStreams_scoped (ht : isTableName table = true) (f : CommandFilter) :
    (f.matchingStreams table).Scoped := by
  have hmem : table ∈ [table] := List.mem_singleton_self table
  have hselect := (Query.Reading.ofTable ht).addSelect (CommandRow.reads_streamId hmem)
  have hread : (f.scopedContribution table).Reads [table] :=
    .append (.unsupported _ _ _) (f.reads_ownContribution ht hmem)
  exact (Query.scoped_iff _).mpr (hselect.addAll (List.Subset.refl _) hread)

open StreamRow in
theorem CommandStreamFilter.reads_contribution (hT : tables.invalidEntry? = none)
    (ht : isTableName table = true) (h : table ∈ scope) (f : CommandStreamFilter) :
    (f.contribution tables root table).Reads scope := by
  refine Reads.all ⟨?_, ?_, ?_, ?_, ?_, ?_, ?_⟩
  · exact .ofOption fun link _ => reads_systemContribution hT h link
  · refine .ofOption fun commands _ => ?_
    unfold commandsContribution
    split
    · exact .fail _
    · rename_i t hcommands
      split
      · exact .fail _
      · rename_i hs
        refine .condition ?_
        rw [Condition.Reads]
        exact ⟨List.forall_mem_singleton.mpr (StreamRow.reads_id h),
          CommandFilter.joins_matchingStreams hs,
          commands.matchingStreams_scoped (Tables.isTableName_of_table? hT hcommands)⟩
  · exact .condition? (Condition.reads_hasId (StreamRow.reads_id h) _)
  · exact .ofOption fun search _ => StreamRow.reads_fullTextContribution h search
  · exact reads_nameContribution h (by decide) _
  · exact reads_propertyContribution h _
  · exact .ofOption fun time _ => StreamRow.reads_validTimeContribution ht h time

theorem CommandFilter.reads_contribution (hT : tables.invalidEntry? = none)
    (ht : isTableName table = true) (h : table ∈ scope) (f : CommandFilter) :
    (f.contribution tables root table).Reads scope := by
  refine .append (.ofOption fun link _ => ?_) (f.reads_ownContribution ht h)
  refine Linked.reads_resolve hT (fun streams filter hstreams => ?_) fun ids => ?_
  · refine .join ⟨hstreams, _, _, rfl, CommandRow.reads_streamId h, StreamRow.reads_id ?_⟩ ?_
    · exact List.mem_singleton_self streams
    · exact filter.reads_contribution hT hstreams List.mem_cons_self
  · exact .condition? (Condition.reads_hasId (CommandRow.reads_streamId h) _)

/-! ## Observations -/

namespace ObservationRow

theorem reads_dataStreamId (h : table ∈ scope) : (dataStreamId table).Reads scope :=
  Expr.reads_column h (by decide)

theorem reads_foiId (h : table ∈ scope) : (foiId table).Reads scope :=
  Expr.reads_column h (by decide)

theorem reads_timed (h : isTableName table = true) {name : String}
    (hn : isIdentifier name.toList = true) : (timed table name).Reads := by
  have hmem : table ∈ [table] := List.mem_singleton_self table
  refine ⟨h, ?_, ?_, ?_⟩
  · exact List.forall_mem_singleton.mpr (Expr.reads_column hmem (by decide))
  · exact List.forall_mem_singleton.mpr (Expr.reads_column hmem hn)
  · exact List.forall_mem_singleton.mpr (reads_dataStreamId hmem)

theorem reads_dataStreamContribution (hT : tables.invalidEntry? = none) (h : table ∈ scope)
    (pin : Option Int64) (link : Option (Linked DataStreamFilter)) :
    (dataStreamContribution tables root table pin link).Reads scope := by
  have hpinned : (dataStreamContribution.pinned table pin).Reads scope := by
    refine .condition? fun c hc => ?_
    obtain ⟨stream, -, rfl⟩ := Option.map_eq_some_iff.mp hc
    exact Condition.reads_isId (reads_dataStreamId h) stream
  cases link with
  | none => exact hpinned
  | some link =>
    refine Linked.reads_resolve hT (fun streams filter hstreams => ?_) fun ids => ?_
    · refine .join ⟨hstreams, _, _, rfl, reads_dataStreamId h, StreamRow.reads_id ?_⟩ ?_
      · exact List.mem_singleton_self streams
      · exact filter.reads_contribution hT hstreams List.mem_cons_self pin
    · exact .append (.condition? (Condition.reads_hasId (reads_dataStreamId h) _)) hpinned

theorem reads_foiIdContribution (h : table ∈ scope) (ids : IdSet) :
    (foiIdContribution table ids).Reads scope :=
  .condition? (Condition.reads_hasFeature (reads_foiId h) ids)

theorem reads_foiContribution (hT : tables.invalidEntry? = none) (h : table ∈ scope)
    (time : Option TimeFilter) (link : Linked FeatureFilter) :
    (foiContribution tables root table time link).Reads scope := by
  refine Linked.reads_resolve hT (fun features filter hfeatures => ?_) fun ids => ?_
  · dsimp only
    split
    · split
      · exact reads_foiIdContribution h _
      · exact .fail _
    · refine .join ⟨hfeatures, _, _, rfl, reads_foiId h, FeatureRow.reads_id ?_⟩ ?_
      · exact List.mem_singleton_self features
      · exact .append (filter.reads_contribution hfeatures List.mem_cons_self)
          (.ofOption fun t _ =>
            FeatureRow.reads_validTimeContribution hfeatures List.mem_cons_self t)
  · exact reads_foiIdContribution h _

theorem reads_timesContribution (ht : isTableName table = true) (h : table ∈ scope)
    (phenomenonTime resultTime : Option TimeFilter) :
    (timesContribution root table phenomenonTime resultTime).Reads scope :=
  .append (.ofOption fun t _ => t.reads_contribution root (reads_timed ht (by decide)) h)
    (.ofOption fun t _ => t.reads_contribution root (reads_timed ht (by decide)) h)

end ObservationRow

open ObservationRow

theorem ObservationFilter.reads_contribution (hT : tables.invalidEntry? = none)
    (ht : isTableName table = true) (h : table ∈ scope) (f : ObservationFilter) :
    (f.contribution tables root table).Reads scope := by
  refine Reads.all ⟨?_, ?_, ?_⟩
  · exact reads_dataStreamContribution hT h _ _
  · exact .ofOption fun link _ => reads_foiContribution hT h _ link
  · exact reads_timesContribution ht h _ _

theorem StatisticsFilter.reads_contribution (hT : tables.invalidEntry? = none)
    (ht : isTableName table = true) (h : table ∈ scope) (f : StatisticsFilter) :
    (f.contribution tables root table).Reads scope := by
  refine Reads.all ⟨?_, ?_, ?_, ?_⟩
  · exact reads_dataStreamContribution hT h _ _
  · exact .ofOption fun link _ => reads_foiContribution hT h _ link
  · exact .ofOption fun _ _ => reads_foiIdContribution h _
  · exact reads_timesContribution ht h _ _

/-! ## Filters of any entity -/

theorem Filter.reads_contribution (hT : tables.invalidEntry? = none)
    (ht : isTableName table = true) (h : table ∈ scope) :
    ∀ f : Filter, (f.contribution tables root table).Reads scope
  | observation f => f.reads_contribution hT ht h
  | observationStatistics f => f.reads_contribution hT ht h
  | dataStream f => f.reads_contribution hT ht h none
  | featureOfInterest f => f.reads_contribution ht h
  | system f => f.reads_contribution ht h
  | commandStream f => f.reads_contribution hT ht h
  | command f => f.reads_contribution hT ht h

end ObservationQuery
