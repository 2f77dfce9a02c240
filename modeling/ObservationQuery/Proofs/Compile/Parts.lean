import ObservationQuery.Proofs.Compile.Link
import ObservationQuery.Proofs.Compile.Time
import ObservationQuery.Proofs.Filter

/-!
# The joins and the texts that filters contribute

Principal results: `FeatureFilter.brings_contribution`, … — one for each filter, and
`Filter.brings_contribution` for a filter of any entity: unless a criterion fails, a filter
contributes its joins and its texts, in order.
-/

namespace ObservationQuery

open Contribution

variable {tables : Tables} {root table : String}

/-! ## Features and systems -/

namespace FeatureRow

theorem brings_parentContribution {F : Type} [Linkable F] (e : Entity) (link : Linked F) :
    (parentContribution e table link).Brings [] [] := by
  have hids : ∀ ids,
      (Contribution.condition? (Condition.hasId (parentId table) ids)).Brings [] [] :=
    fun ids => .condition? (Condition.userTexts_hasId _ ids)
  cases link with
  | ids ids => exact hids ids
  | filter filter =>
    unfold parentContribution
    dsimp only
    split
    · split
      · exact hids _
      · exact .fail _
    · exact .fail _

theorem brings_locationContribution (place : SpatialFilter) :
    (locationContribution table place).Brings [] [place.wkt] :=
  .ofExcept fun _ hc => .condition (Condition.userTexts_isPlaced hc)

theorem brings_fullTextContribution (search : TextFilter) :
    (fullTextContribution table search).Brings [] [search.pattern, search.pattern] :=
  .ofExcept fun _ hc => .condition (Condition.userTexts_mentions hc)

theorem brings_validTimeContribution (time : TimeFilter) :
    (validTimeContribution root table time).Brings [] [] := time.brings_contribution _

end FeatureRow

open FeatureRow in
theorem FeatureFilter.brings_contribution (f : FeatureFilter) :
    (f.contribution root table).Brings [] f.texts := by
  have h : (f.contribution root table).Brings [] _ :=
    .skip (.ofOption_nothing fun _ _ => brings_parentContribution _ _) <|
    .skip (.unsupported _ _ _) <|
    .skip (.unsupported _ _ _) <|
    .skip (.condition? (Condition.userTexts_hasId _ _)) <|
    .cons (.condition? (Condition.userTexts_hasUniqueId _ _)) <|
    .cons (.ofOption_texts fun _ _ => brings_locationContribution _) <|
    .cons (.ofOption_texts fun _ _ => FeatureRow.brings_fullTextContribution _) <|
    .skip (.ofOption_nothing fun _ _ => FeatureRow.brings_validTimeContribution _) .empty
  rw [texts]
  simpa using h

open FeatureRow in
theorem SystemFilter.brings_contribution (f : SystemFilter) :
    (f.contribution root table).Brings [] f.texts := by
  have hids : (f.idCondition? table).toList.flatMap Condition.userTexts = [] := by
    rw [idCondition?, Condition.userTexts_anyOf?, List.flatMap_append,
      Condition.userTexts_idTests, List.nil_append]
    split
    · exact Condition.userTexts_idTests _ _
    · rfl
  have h : (f.contribution root table).Brings [] _ :=
    .skip (.ofOption_nothing fun _ _ => brings_parentContribution _ _) <|
    .skip (.unsupported _ _ _) <|
    .skip (.unsupported _ _ _) <|
    .skip (.condition? hids) <|
    .cons (.condition? (Condition.userTexts_hasUniqueId _ _)) <|
    .cons (.ofOption_texts fun _ _ => brings_locationContribution _) <|
    .cons (.ofOption_texts fun _ _ => FeatureRow.brings_fullTextContribution _) <|
    .skip (.ofOption_nothing fun _ _ => FeatureRow.brings_validTimeContribution _) .empty
  rw [texts]
  simpa using h

/-! ## Filters that only name identifiers -/

theorem SystemFilter.texts_of_idsOnly {f : SystemFilter} {ids : LinkIds}
    (h : idsOnly? f = some ids) : f.texts = ids.uniqueIds.toList.map uidText := by
  simp only [idsOnly?, Option.ite_none_right_eq_some, Bool.and_eq_true, Option.isNone_iff_eq_none,
    Option.some.injEq] at h
  obtain ⟨⟨⟨⟨-, hsearch⟩, hplace⟩, -⟩, rfl⟩ := h
  simp [texts, hsearch, hplace]

theorem DataStreamFilter.texts_of_idsOnly {f : DataStreamFilter} {ids : LinkIds}
    (h : idsOnly? f = some ids) : f.texts = [] := by
  simp only [idsOnly?, Option.ite_none_right_eq_some, Bool.and_eq_true,
    Option.isNone_iff_eq_none] at h
  obtain ⟨⟨⟨⟨⟨⟨hsystem, hsearch⟩, -⟩, hnames⟩, huris⟩, -⟩, -⟩ := h
  simp [texts, propertyTexts, hsystem, hsearch, huris, SortedSet.toList_of_isEmpty hnames]

theorem CommandStreamFilter.texts_of_idsOnly {f : CommandStreamFilter} {ids : LinkIds}
    (h : idsOnly? f = some ids) : f.texts = [] := by
  simp only [idsOnly?, Option.ite_none_right_eq_some, Bool.and_eq_true,
    Option.isNone_iff_eq_none] at h
  obtain ⟨⟨⟨⟨⟨⟨hsystem, hsearch⟩, -⟩, hnames⟩, huris⟩, hcommands⟩, -⟩ := h
  simp [texts, propertyTexts, hsystem, hsearch, huris, hcommands,
    SortedSet.toList_of_isEmpty hnames]

theorem FeatureFilter.texts_of_idsOnly {f : FeatureFilter} {ids : LinkIds}
    (h : idsOnly? f = some ids) : f.texts = [] := by
  simp only [idsOnly?, Option.ite_none_right_eq_some, Bool.and_eq_true,
    Option.isNone_iff_eq_none] at h
  obtain ⟨⟨⟨⟨⟨⟨⟨huids, -⟩, -⟩, hplace⟩, -⟩, hsearch⟩, -⟩, -⟩ := h
  simp [texts, hplace, hsearch, SortedSet.toList_of_isEmpty huids]

/-- The filter behind a reference that constrains the referring column has the texts that a filter
with nothing but identifiers has. -/
theorem Linked.texts_of_resolve_flat {F : Type} [Linkable F] {link : Linked F}
    {table? : Option String} {entity : Entity} {field : String} {ids : LinkIds}
    (h : link.resolve table? entity field = .ok (.flat ids)) {t : F → List String}
    {u : LinkIds → List String} (hnil : ∀ i, u ⟨i, ∅⟩ = [])
    (ht : ∀ {f ids}, idsOnly? f = some ids → t f = u ids) : link.texts t = u ids := by
  obtain ⟨internalIds, rfl, rfl⟩ | ⟨filter, rfl, -, hids⟩ := Linked.resolve_eq_flat.mp h
  · exact (hnil internalIds).symm
  · exact ht hids

/-- A reference brings its join before what the filter behind it brings, or the texts of the
identifiers that it names. -/
theorem Linked.brings_resolve {F : Type} [Linkable F] {link : Linked F} {entity : Entity}
    {field : String} {c : Resolution F → Contribution} {on : String → Predicate}
    {inner : String → F → List Join} {t : F → List String} {u : LinkIds → List String}
    (hjoin : ∀ table f, (c (.join table f)).Brings (⟨table, on table⟩ :: inner table f) (t f))
    (hflat : ∀ ids, (c (.flat ids)).Brings [] (u ids)) (hnil : ∀ i, u ⟨i, ∅⟩ = [])
    (ht : ∀ {f ids}, idsOnly? f = some ids → t f = u ids) :
    (Contribution.ofExcept c (link.resolve (tables.table? entity) entity field)).Brings
      (link.joins tables entity field on inner) (link.texts t) := by
  refine .ofExcept fun resolution hres => ?_
  rw [Linked.joins, hres]
  cases resolution with
  | join table filter =>
    obtain ⟨rfl, -⟩ := Linked.resolve_eq_join.mp hres
    exact hjoin table filter
  | flat ids =>
    rw [Linked.texts_of_resolve_flat hres hnil ht]
    exact hflat ids

/-! ## Streams -/

namespace StreamRow

theorem brings_systemContribution (link : Linked SystemFilter) :
    (systemContribution tables root table link).Brings (systemJoins tables table link)
      (link.texts SystemFilter.texts) := by
  refine Linked.brings_resolve (fun system filter => ?_) (fun ids => ?_) (fun _ => rfl)
    SystemFilter.texts_of_idsOnly
  · exact .join _ filter.brings_contribution
  · exact .append (.condition? (Condition.userTexts_hasId _ _))
      (.condition? (Condition.userTexts_hasUniqueId _ _))

theorem brings_fullTextContribution (search : TextFilter) :
    (fullTextContribution table search).Brings [] [search.pattern] :=
  .ofExcept fun _ hc => .condition (Condition.userTexts_mentions hc)

theorem brings_nameContribution (member : String) (names : NameSet) :
    (nameContribution table member names).Brings [] names.toList :=
  .condition? (Condition.userTexts_hasName _ names)

theorem brings_propertyContribution (uris : NameSet) :
    (propertyContribution table uris).Brings [] (propertyTexts uris) :=
  .condition? (Condition.userTexts_hasProperty _ uris)

theorem brings_validTimeContribution (time : TimeFilter) :
    (validTimeContribution root table time).Brings [] [] := time.brings_contribution _

end StreamRow

open StreamRow in
theorem DataStreamFilter.brings_contribution (pin : Option Int64) (f : DataStreamFilter) :
    (f.contribution tables root table pin).Brings (f.joins tables table) f.texts := by
  have h : (f.contribution tables root table pin).Brings _ _ :=
    .cons (.ofOption fun link _ => brings_systemContribution link) <|
    .skip (.unsupported _ _ _) <|
    .skip (by
      cases pin with
      | none => exact .condition? (Condition.userTexts_hasId _ _)
      | some stream => exact .condition (Condition.userTexts_of _)) <|
    .cons (.ofOption_texts fun _ _ => StreamRow.brings_fullTextContribution _) <|
    .cons (brings_nameContribution _ _) <|
    .cons (brings_propertyContribution _) <|
    .skip (.ofOption_nothing fun _ _ => StreamRow.brings_validTimeContribution _) .empty
  rw [texts, joins]
  simpa using h

/-! ## Commands -/

theorem CommandFilter.brings_ownContribution (f : CommandFilter) :
    (f.ownContribution root table).Brings [] f.ownTexts := by
  have h : (f.ownContribution root table).Brings [] _ :=
    .skip (.condition? (Condition.userTexts_hasId _ _)) <|
    .cons (.condition? (Condition.userTexts_hasName _ _)) <|
    .skip (.condition? (Condition.userTexts_hasFeature _ _)) <|
    .skip (.ofOption_nothing fun time _ => time.brings_contribution _) .empty
  rw [ownTexts]
  simpa using h

theorem CommandFilter.brings_scopedContribution (f : CommandFilter) :
    (f.scopedContribution table).Brings [] f.ownTexts :=
  .append (.unsupported _ _ _) f.brings_ownContribution

/-- A condition on the identifier is not written like one on the sender. -/
theorem CommandRow.text_ne {ids : IdSet} {names : NameSet} {c d : Condition}
    (hc : c ∈ Condition.hasId (CommandRow.id table) ids)
    (hd : d ∈ Condition.hasName (CommandRow.senderId table) names) : d.text ≠ c.text := by
  have hid : ∃ rest, c.text = table ++ "." ++ "id" ++ rest := by
    unfold Condition.hasId Condition.idTests at hc
    split at hc
    · cases hc
    · cases hc
      show ∃ rest, Predicate.idsText (CommandRow.id table) ids.toList = _ ++ rest
      unfold Predicate.idsText
      split
      · exact ⟨_, String.append_assoc⟩
      · exact ⟨_, String.append_assoc.trans String.append_assoc⟩
  have hname : ∃ rest, d.text = table ++ "." ++ "senderid" ++ rest := by
    unfold Condition.hasName at hd
    split at hd
    · cases hd
    · cases hd
      exact ⟨_, String.append_assoc.trans String.append_assoc⟩
  obtain ⟨x, hx⟩ := hid
  obtain ⟨y, hy⟩ := hname
  intro h
  rw [hx, hy] at h
  have hlist := congrArg String.toList h
  simp at hlist

/-- What brings no texts of the user adds none to a query. -/
theorem Query.userTexts_include {q : Query} {c : Contribution} {joins : List Join}
    (h : c.Brings joins []) (hs : c.Succeeds) : (q.include c).userTexts = q.userTexts := by
  have hnone := List.flatMap_eq_nil_iff.mp (h.texts hs)
  rw [userTexts_eq, userTexts_eq, Query.include, conditions_addAll]
  refine flatMap_foldl_appendNew fun d hd => ?_
  obtain ⟨clause, hclause, hmem⟩ := List.mem_flatMap.mp hd
  cases clause with
  | condition e =>
    rw [List.mem_singleton.mp hmem]
    exact hnone _ hclause
  | join | distinct | orderBy => cases hmem

theorem Query.include_append {a b : Contribution} (q : Query) (h : a.Succeeds) :
    q.include (a ++ b) = (q.include a).include b := by
  rw [Query.include, clauses_append h, addAll_append]
  rfl

/-- A condition that is not written like one that is there adds its texts. -/
theorem Query.userTexts_condition? {q : Query} {c : Option Condition}
    (h : ∀ d ∈ c, d.text ∉ q.conditions.map Condition.text) :
    (q.include (Contribution.condition? c)).userTexts =
      q.userTexts ++ c.toList.flatMap Condition.userTexts := by
  cases c with
  | none => simp [Query.include, Contribution.condition?]
  | some d =>
    have hnew : appendNew Condition.text q.conditions d = q.conditions ++ [d] := if_neg (h d rfl)
    rw [userTexts_eq, userTexts_eq]
    show (appendNew Condition.text q.conditions d).flatMap Condition.userTexts = _
    rw [hnew, List.flatMap_append]
    rfl

/-- The query of the matching streams has all texts of the filter: the condition on the senders is
not left out. -/
theorem CommandFilter.userTexts_matchingStreams {f : CommandFilter}
    (h : (f.scopedContribution table).Succeeds) :
    (f.matchingStreams table).userTexts = f.ownTexts := by
  have hsenders : ∀ d ∈ Condition.hasName (CommandRow.senderId table) f.senderIds, d.text ∉
      (((Query.ofTable table).addSelect (CommandRow.streamId table)).include
        (.condition? (Condition.hasId (CommandRow.id table) f.internalIds))).conditions.map
          Condition.text := by
    intro d hd hmem
    obtain ⟨c, hc, htext⟩ := List.mem_map.mp hmem
    have hid : c ∈ Condition.hasId (CommandRow.id table) f.internalIds := by
      cases hids : Condition.hasId (CommandRow.id table) f.internalIds with
      | none =>
        rw [hids] at hc
        cases hc
      | some b =>
        rw [hids] at hc
        have hnew : c ∈ appendNew Condition.text [] b := hc
        rcases mem_appendNew hnew with hnil | rfl
        · cases hnil
        · rfl
    exact CommandRow.text_ne hid hd htext.symm
  obtain ⟨hstream, hown⟩ := succeeds_append.mp h
  have hstream := succeeds_unsupported.mp hstream
  rw [ownContribution, all_cons, all_cons, all_cons, all_cons] at hown
  obtain ⟨hid, hown⟩ := succeeds_append.mp hown
  obtain ⟨hname, hown⟩ := succeeds_append.mp hown
  obtain ⟨hfeature, htime⟩ := succeeds_append.mp hown
  rw [all_nil, append_empty] at htime
  rw [matchingStreams, scopedContribution, hstream, ownContribution, all_cons, all_cons, all_cons,
    all_cons, all_nil, append_empty]
  show (Query.include _ ({} ++ _)).userTexts = _
  rw [empty_append, Query.include_append _ hid, Query.include_append _ hname,
    Query.include_append _ hfeature]
  rw [Query.userTexts_include (.ofOption_nothing fun time _ => time.brings_contribution _) htime,
    Query.userTexts_include (.condition? (Condition.userTexts_hasFeature _ _)) hfeature,
    Query.userTexts_condition? hsenders,
    Query.userTexts_include (.condition? (Condition.userTexts_hasId _ _)) hid,
    Condition.userTexts_hasName, ownTexts]
  rfl

theorem CommandFilter.joins_matchingStreams {f : CommandFilter}
    (h : (f.scopedContribution table).Succeeds) : (f.matchingStreams table).joins = [] := by
  rw [matchingStreams, Query.include, Query.joins_addAll, f.brings_scopedContribution.joins h]
  rfl

open StreamRow in
theorem CommandStreamFilter.brings_contribution (f : CommandStreamFilter) :
    (f.contribution tables root table).Brings (f.joins tables table) f.texts := by
  have hcommands : ∀ commands, (commandsContribution tables table commands).Brings []
      commands.ownTexts := by
    intro commands
    unfold commandsContribution
    split
    · exact .fail _
    · split
      · exact .fail _
      · rename_i t _ hs
        rw [← CommandFilter.userTexts_matchingStreams hs]
        exact .condition (by rw [Condition.userTexts])
  have h : (f.contribution tables root table).Brings _ _ :=
    .cons (.ofOption fun link _ => brings_systemContribution link) <|
    .cons (.ofOption_texts fun commands _ => hcommands commands) <|
    .skip (.condition? (Condition.userTexts_hasId _ _)) <|
    .cons (.ofOption_texts fun _ _ => StreamRow.brings_fullTextContribution _) <|
    .cons (brings_nameContribution _ _) <|
    .cons (brings_propertyContribution _) <|
    .skip (.ofOption_nothing fun _ _ => StreamRow.brings_validTimeContribution _) .empty
  rw [texts, joins]
  simpa using h

theorem CommandRow.brings_streamContribution (link : Linked CommandStreamFilter) :
    (streamContribution tables root table link).Brings (link.joins tables .commandStream
      "commandStream" (fun streams => .equal (CommandRow.streamId table) (StreamRow.id streams))
      fun streams filter => filter.joins tables streams)
      (link.texts CommandStreamFilter.texts) := by
  refine Linked.brings_resolve (u := fun _ => []) (fun streams filter => ?_) (fun ids => ?_)
    (fun _ => rfl) CommandStreamFilter.texts_of_idsOnly
  · exact .join _ filter.brings_contribution
  · exact .condition? (Condition.userTexts_hasId _ _)

theorem CommandFilter.brings_contribution (f : CommandFilter) :
    (f.contribution tables root table).Brings (f.joins tables table) f.texts := by
  have h : (f.contribution tables root table).Brings _ _ :=
    .append (.ofOption fun link _ => CommandRow.brings_streamContribution link)
      f.brings_ownContribution
  rw [List.append_nil] at h
  exact h

/-! ## Observations -/

namespace ObservationRow

theorem brings_dataStreamContribution (pin : Option Int64)
    (link : Option (Linked DataStreamFilter)) :
    (dataStreamContribution tables root table pin link).Brings
      (link.elim [] (dataStreamJoins tables table))
      (link.elim [] (Linked.texts DataStreamFilter.texts)) := by
  have hpinned : (dataStreamContribution.pinned table pin).Brings [] [] := by
    refine .condition? ?_
    cases pin with
    | none => rfl
    | some stream =>
      rw [Option.map_some, Option.toList_some, List.flatMap_singleton]
      exact Condition.userTexts_of _
  cases link with
  | none => exact hpinned
  | some link =>
    refine Linked.brings_resolve (u := fun _ => []) (fun streams filter => ?_) (fun ids => ?_)
      (fun _ => rfl) DataStreamFilter.texts_of_idsOnly
    · exact .join _ (filter.brings_contribution pin)
    · exact .append (.condition? (Condition.userTexts_hasId _ _)) hpinned

theorem brings_foiIdContribution (ids : IdSet) : (foiIdContribution table ids).Brings [] [] :=
  .condition? (Condition.userTexts_hasFeature _ ids)

theorem brings_foiContribution (time : Option TimeFilter) (link : Linked FeatureFilter) :
    (foiContribution tables root table time link).Brings (foiJoins tables table link)
      (link.texts FeatureFilter.texts) := by
  refine .ofExcept fun resolution hres => ?_
  rw [foiJoins, Linked.joins, hres]
  cases resolution with
  | join features filter =>
    obtain ⟨rfl, -⟩ := Linked.resolve_eq_join.mp hres
    by_cases hzero : noFeature ∈ filter.internalIds
    · rw [if_pos (by simpa [Linked.namesNoFeature] using hzero)]
      dsimp only
      rw [if_pos hzero]
      split
      · rename_i ids hids
        have htexts : (Linked.filter filter).texts FeatureFilter.texts = [] :=
          FeatureFilter.texts_of_idsOnly hids
        rw [htexts]
        exact brings_foiIdContribution _
      · exact .fail _
    · rw [if_neg (by simpa [Linked.namesNoFeature] using hzero)]
      dsimp only
      rw [if_neg hzero]
      have htime : (Contribution.ofOption (FeatureRow.validTimeContribution root features)
          (time.filter fun t => !t.isLatest)).Brings [] [] :=
        .ofOption_nothing fun t _ => FeatureRow.brings_validTimeContribution t
      have hfilter : (filter.contribution root features).Brings [] filter.texts :=
        filter.brings_contribution
      have hboth := hfilter.append htime
      rw [List.append_nil, List.append_nil] at hboth
      exact .join _ hboth
  | flat ids =>
    rw [Linked.texts_of_resolve_flat hres (u := fun _ => []) (fun _ => rfl)
      FeatureFilter.texts_of_idsOnly, ite_self]
    exact brings_foiIdContribution _

theorem brings_timesContribution (phenomenonTime resultTime : Option TimeFilter) :
    (timesContribution root table phenomenonTime resultTime).Brings [] [] :=
  .append (.ofOption_nothing fun t _ => t.brings_contribution _)
    (.ofOption_nothing fun t _ => t.brings_contribution _)

end ObservationRow

open ObservationRow

theorem ObservationFilter.brings_contribution (f : ObservationFilter) :
    (f.contribution tables root table).Brings (f.joins tables table) f.texts := by
  have h : (f.contribution tables root table).Brings _ _ :=
    .cons (brings_dataStreamContribution none f.dataStream) <|
    .cons (.ofOption fun link _ => brings_foiContribution f.phenomenonTime link) <|
    .skip (brings_timesContribution _ _) .empty
  rw [texts, joins]
  simpa using h

theorem StatisticsFilter.brings_contribution (f : StatisticsFilter) :
    (f.contribution tables root table).Brings (f.observations.joins tables table)
      f.observations.texts := by
  have h : (f.contribution tables root table).Brings _ _ :=
    .cons (brings_dataStreamContribution f.dataStreamId f.observations.dataStream) <|
    .cons (.ofOption fun link _ => brings_foiContribution f.observations.phenomenonTime link) <|
    .skip (.ofOption_nothing fun _ _ => brings_foiIdContribution _) <|
    .skip (brings_timesContribution _ _) .empty
  rw [ObservationFilter.texts, ObservationFilter.joins]
  simpa using h

/-! ## Filters of any entity -/

/-- **Unless a criterion fails, a filter contributes its joins and its texts, in order.** -/
theorem Filter.brings_contribution :
    ∀ f : Filter, (f.contribution tables root table).Brings (f.joins tables table) f.texts
  | observation f => f.brings_contribution
  | observationStatistics f => f.brings_contribution
  | dataStream f => f.brings_contribution none
  | featureOfInterest f => f.brings_contribution
  | system f => f.brings_contribution
  | commandStream f => f.brings_contribution
  | command f => f.brings_contribution

end ObservationQuery
