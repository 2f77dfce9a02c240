import ObservationQuery.Proofs.Compile.Alike

/-!
# Spellings of a reference

Identifiers of a linked entity can be written bare or as a filter that names them and holds nothing
else but a limit. Where such a filter is not joined, the spelling does not matter.

* `Tolerance.respelling` — the references for which this is so.
* `ObservationRow.noFeatureOr` — the condition that an observation has no feature, or one of some.

Principal result: `compile_respelled` — filters that differ in the spelling of such references have
the same query, or none for the same reason. Where they name "no feature", nothing is joined.
-/

namespace ObservationQuery

open Contribution

/-- References may be respelled where the linked entity is not stored, parents always, and features
also where "no feature" is among them. -/
def Tolerance.respelling (tables : Tables) : Tolerance where
  moment := Eq
  dataStream _ := tables.table? .dataStream = none
  foi s := tables.table? .featureOfInterest = none ∨ noFeature ∈ s
  system _ := tables.table? .system = none
  commandStream _ := tables.table? .commandStream = none
  parent _ := True

theorem Tolerance.harmless_respelling (tables : Tables) : (respelling tables).Harmless tables where
  moment _ _ h := congrArg _ h
  dataStream _ h := h
  foi _ h := h
  system _ h := h
  commandStream _ h := h

/-! ## No feature -/

/-- An observation has no feature, or one of those in `s` that are features. -/
def ObservationRow.noFeatureOr (table : String) (s : IdSet) : Condition :=
  .anyOf (.isNull (foiId table)) (Condition.idTests (foiId table) (s.filter (· != noFeature)))

/-- The filter without what it says of features. -/
def Filter.withoutFoi : Filter → Filter
  | observation f => observation { f with foi := none }
  | observationStatistics f =>
    observationStatistics { f with observations := { f.observations with foi := none } }
  | f => f

section
variable (tables : Tables) (root table : String) {f : Filter} {a : ObservationFilter}
  {link : Linked FeatureFilter} {s : IdSet}

/-- Whatever the spelling and whether features are stored or not, a reference that names "no
feature" is a condition. -/
theorem ObservationRow.foiContribution_of_noFeature (phenomenonTime : Option TimeFilter)
    (h : link.Names s) (hs : noFeature ∈ s) :
    foiContribution tables root table phenomenonTime link = .condition (noFeatureOr table s) := by
  unfold foiContribution
  rw [h.ofExcept_resolve]
  · simp only [foiIdContribution, Condition.hasFeature, if_pos hs]
    rfl
  · intro features _ limit
    have hnaming : (naming s limit : FeatureFilter).internalIds = s := rfl
    simp only [hnaming, if_pos hs, idsOnly?_naming]

/-- The condition stands by itself: what comes before and after it does not depend on it. -/
theorem Filter.contribution_of_noFeature (hf : a ∈ f.observations?) (hlink : link ∈ a.foi)
    (h : link.Names s) (hs : noFeature ∈ s) : ∃ before after : Contribution,
      f.contribution tables root table =
        before ++ (.condition (ObservationRow.noFeatureOr table s) ++ after) ∧
      f.withoutFoi.contribution tables root table = before ++ after := by
  have hfoi : ofOption (ObservationRow.foiContribution tables root table a.phenomenonTime) a.foi =
      .condition (ObservationRow.noFeatureOr table s) := by
    rw [Option.mem_def.mp hlink]
    exact ObservationRow.foiContribution_of_noFeature tables root table a.phenomenonTime h hs
  cases f with
  | observation f =>
    cases hf
    refine ⟨ObservationRow.dataStreamContribution tables root table none a.dataStream,
      .all [ObservationRow.timesContribution root table a.phenomenonTime a.resultTime], ?_, rfl⟩
    simp only [contribution, ObservationFilter.contribution, all_cons, hfoi]
  | observationStatistics f =>
    cases hf
    refine ⟨ObservationRow.dataStreamContribution tables root table f.dataStreamId
        f.observations.dataStream,
      .all [.ofOption (fun i => ObservationRow.foiIdContribution table (.singleton i)) f.foiId,
        ObservationRow.timesContribution root table f.observations.phenomenonTime
          f.observations.resultTime], ?_, rfl⟩
    simp only [contribution, StatisticsFilter.contribution, all_cons, hfoi]
  | dataStream | featureOfInterest | system | commandStream | command => cases hf

theorem Filter.entity_withoutFoi (f : Filter) : f.withoutFoi.entity = f.entity := by
  cases f <;> rfl

theorem Filter.limit_withoutFoi (f : Filter) : f.withoutFoi.limit = f.limit := by
  cases f <;> rfl

end

/-- A condition among other clauses joins nothing and takes no other condition away. -/
theorem Query.include_condition (q : Query) {before after : Contribution} {c : Condition}
    (h : (before ++ (.condition c ++ after)).Succeeds) :
    (q.include (before ++ (.condition c ++ after))).joins = (q.include (before ++ after)).joins ∧
      ∀ text, text ∈ (q.include (before ++ (.condition c ++ after))).conditions.map Condition.text ↔
        text ∈ (q.include (before ++ after)).conditions.map Condition.text ∨ text = c.text := by
  obtain ⟨hbefore, hrest⟩ := succeeds_append.mp h
  have hwith : (before ++ (.condition c ++ after)).clauses =
      before.clauses ++ .condition c :: after.clauses := by
    rw [clauses_append hbefore, clauses_append (succeeds_append.mp hrest).1]
    rfl
  have hwithout : (before ++ after).clauses = before.clauses ++ after.clauses :=
    clauses_append hbefore
  simp only [Query.include, hwith, hwithout]
  constructor
  · rw [joins_addAll, joins_addAll, List.flatMap_append, List.flatMap_append]
    rfl
  · intro text
    simp only [text_mem_conditions_addAll_iff, List.mem_append, List.mem_cons,
      Clause.condition.injEq]
    constructor
    · rintro (htext | ⟨d, hd | rfl | hd, rfl⟩)
      · exact .inl (.inl htext)
      · exact .inl (.inr ⟨d, .inl hd, rfl⟩)
      · exact .inr rfl
      · exact .inl (.inr ⟨d, .inr hd, rfl⟩)
    · rintro ((htext | ⟨d, hd | hd, rfl⟩) | rfl)
      · exact .inl htext
      · exact .inr ⟨d, .inl hd, rfl⟩
      · exact .inr ⟨d, .inr (.inr hd), rfl⟩
      · exact .inr ⟨c, .inr (.inl rfl), rfl⟩

/-- A reference that names "no feature" is one condition more than the filter has without it, and no
join. -/
theorem exists_compile_withoutFoi {tables : Tables} {f : Filter} {a : ObservationFilter}
    {link : Linked FeatureFilter} {s : IdSet} {q : Query} (hf : a ∈ f.observations?)
    (hlink : link ∈ a.foi) (h : link.Names s) (hs : noFeature ∈ s)
    (hq : compile tables f = .ok q) : ∃ p, compile tables f.withoutFoi = .ok p ∧
      q.joins = p.joins ∧ ∀ text, text ∈ q.conditions.map Condition.text ↔
        text ∈ p.conditions.map Condition.text ∨
          text = (ObservationRow.noFeatureOr q.table s).text := by
  obtain ⟨table, htable, hsucceeds, hlimit, rfl⟩ := compile_eq_ok.mp hq
  obtain ⟨before, after, hwith, hwithout⟩ :=
    Filter.contribution_of_noFeature tables table table hf hlink h hs
  rw [hwith] at hsucceeds ⊢
  obtain ⟨hjoins, hconditions⟩ := (Query.ofTable table).include_condition hsucceeds
  have hrest : (before ++ after).Succeeds := by
    rw [succeeds_append, succeeds_append] at hsucceeds
    exact succeeds_append.mpr ⟨hsucceeds.1, hsucceeds.2.2⟩
  have hsource : ((Query.ofTable table).include
      (before ++ (.condition (ObservationRow.noFeatureOr table s) ++ after))).table = table :=
    Query.table_addAll _ _
  have hp : compile tables f.withoutFoi = .ok
      { (Query.ofTable table).include (before ++ after) with limit := f.limit } := by
    refine compile_eq_ok.mpr ⟨table, ?_, ?_, ?_, ?_⟩
    · rw [f.entity_withoutFoi, htable]
    · rw [hwithout]
      exact hrest
    · rw [f.limit_withoutFoi]
      exact hlimit
    · rw [hwithout, f.limit_withoutFoi]
  refine ⟨_, hp, hjoins, ?_⟩
  show ∀ text, _ ↔ _ ∨ text = (ObservationRow.noFeatureOr (Query.include _ _).table s).text
  rw [hsource]
  exact hconditions

/-- **Filters that differ in the spelling of references that are not joined have the same query, or
none for the same reason. Observations whose reference names "no feature", in either spelling, are
those of the filter without the reference, with one condition more and no join more.** -/
theorem compile_respelled {tables : Tables} {f g : Filter}
    (h : f.Alike (.respelling tables) g) :
    compile tables f = compile tables g ∧
      ∀ a ∈ f.observations?, ∀ link ∈ a.foi, ∀ s, link.Names s → noFeature ∈ s →
        ∀ q, compile tables f = .ok q → ∃ p, compile tables f.withoutFoi = .ok p ∧
          q.joins = p.joins ∧ ∀ text, text ∈ q.conditions.map Condition.text ↔
            text ∈ p.conditions.map Condition.text ∨
              text = (ObservationRow.noFeatureOr q.table s).text := by
  constructor
  · refine compile_congr h.entity_eq h.limit_eq fun table => ?_
    exact h.contribution_eq table table (Tolerance.harmless_respelling tables)
      fun a ha b hb _ _ => eq_of_rel (h.phenomenonTime_rel ha hb)
  · intro a ha link hlink s hnames hs q hq
    exact exists_compile_withoutFoi ha hlink hnames hs hq

/-- Observations of system 3 and of feature 5 or none: systems are not stored, features are. -/
theorem compile_respelled_no_feature :
    let tables : Tables :=
      { observation := some "obs", dataStream := some "streams",
        featureOfInterest := some "features" }
    let observations := fun (system : Linked SystemFilter) (foi : Linked FeatureFilter) =>
      Filter.observation
        { dataStream := some (.filter { system := some system }), foi := some foi,
          phenomenonTime := some .latest }
    let bare := observations (.ids (.singleton 3)) (.ids (.ofList [0, 5]))
    let named := observations (.filter { internalIds := .singleton 3, limit := some 9 })
      (.filter { internalIds := .ofList [0, 5] })
    bare.Alike (.respelling tables) named ∧ compile tables bare = compile tables named ∧
      ∃ q, compile tables named = .ok q ∧ q.joins.map Join.table = ["streams"] ∧
        "(obs.foiid IS NULL OR obs.foiid = 5)" ∈ q.conditions.map Condition.text := by
  intro tables observations bare named
  have hno : noFeature ∈ (SortedSet.ofList [0, 5] : IdSet) := by decide
  have hsystem : Linked.Alike (Tolerance.respelling tables).system
      (SystemFilter.Alike (.respelling tables)) (.ids (.singleton 3))
      (.filter { internalIds := .singleton 3, limit := some 9 }) :=
    .respelled rfl .ids (.filter (some 9))
  have hfoi : Linked.Alike (Tolerance.respelling tables).foi
      (FeatureFilter.Alike (.respelling tables)) (.ids (.ofList [0, 5]))
      (.filter { internalIds := .ofList [0, 5] }) :=
    .respelled (.inr hno) .ids (.filter none)
  have halike : bare.Alike (.respelling tables) named :=
    .observation (.intro (.some (.filter (.intro rfl (.some hsystem) rfl rfl rfl rfl .none rfl)))
      (.some hfoi) (.some rfl) .none rfl)
  obtain ⟨hsame, hjoined⟩ := compile_respelled halike
  have hq : ∃ q, compile tables bare = .ok q := ⟨_, rfl⟩
  obtain ⟨q, hq⟩ := hq
  obtain ⟨p, hp, hjoins, hconditions⟩ := hjoined _ rfl _ rfl _ .ids hno q hq
  refine ⟨halike, hsame, q, hsame ▸ hq, ?_, ?_⟩
  · rw [hjoins]
    cases hp
    rfl
  · rw [hconditions]
    refine .inr ?_
    cases hq
    decide

end ObservationQuery
