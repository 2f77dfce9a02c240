import ObservationQuery.Proofs.Compile.Filter
import ObservationQuery.Proofs.Compile.Latest

/-!
# Pinned statistics

Statistics of one data stream or of one feature are computed from what their filter on observations
selects. The query of the statistics has the conditions of the query of these observations, but for
the internal identifiers of joined streams, whose place the pinned stream takes.

* `Contribution.Keeps` — one contribution has the conditions of another, apart from some.
* `ObservationRow.streamKey` — the expression that a pinned stream constrains.
* `StatisticsFilter.replaced` — the condition whose place the pinned stream takes.

Principal result: `pins_of_compile` — the query of some statistics joins, groups and orders as the
query of the observations does, has its conditions but for the one that is replaced, and has the
conditions of its pins.
-/

namespace ObservationQuery

open Contribution

/-! ## Conditions of contributions -/

namespace Contribution

variable {lost : List Condition} {a b c d : Contribution}

/-- A contribution of several has the clauses of each. -/
theorem mem_clauses_all {l : List Contribution} (h : (all l).Succeeds) {x : Clause} :
    x ∈ (all l).clauses ↔ ∃ c ∈ l, x ∈ c.clauses := by
  induction l with
  | nil => simp
  | cons a l ih =>
    obtain ⟨ha, hl⟩ := succeeds_append.mp h
    rw [all_cons, clauses_append ha, List.mem_append, ih hl, List.exists_mem_cons_iff]

/-- If neither fails, the conditions of `a` are conditions of `b`, apart from some. -/
def Keeps (lost : List Condition) (a b : Contribution) : Prop :=
  a.Succeeds → b.Succeeds →
    ∀ d, .condition d ∈ a.clauses → .condition d ∈ b.clauses ∨ d ∈ lost

namespace Keeps

theorem refl (a : Contribution) : Keeps lost a a := fun _ _ _ hd => .inl hd

theorem empty (b : Contribution) : Keeps lost {} b := by
  intro _ _ d hd
  cases hd

theorem append (h : Keeps lost a b) (h' : Keeps lost c d) : Keeps lost (a ++ c) (b ++ d) := by
  intro hac hbd e he
  obtain ⟨ha, hc⟩ := succeeds_append.mp hac
  obtain ⟨hb, hd⟩ := succeeds_append.mp hbd
  rw [clauses_append ha, List.mem_append] at he
  rw [clauses_append hb, List.mem_append]
  rcases he with he | he
  · exact (h ha hb e he).imp_left .inl
  · exact (h' hc hd e he).imp_left .inr

/-- What comes first may be added. -/
theorem after (b : Contribution) (h : Keeps lost a c) : Keeps lost a (b ++ c) := by
  have hadd := (empty b).append h
  rwa [empty_append] at hadd

theorem condition? (o : Option Condition) (b : Contribution) :
    Keeps o.toList (condition? o) b := by
  intro _ _ d hd
  cases o with
  | none => cases hd
  | some c =>
    cases List.mem_singleton.mp hd
    exact .inr (List.mem_singleton_self _)

end Keeps

end Contribution

/-! ## Pinned streams -/

variable {tables : Tables} {root table : String}

/-- A pinned stream takes the place of the internal identifiers, and of no other condition. -/
theorem DataStreamFilter.keeps_contribution (f : DataStreamFilter) (stream : Int64) :
    Keeps (Condition.hasId (StreamRow.id table) f.internalIds).toList
      (f.contribution tables root table none) (f.contribution tables root table (some stream)) := by
  have hids : Keeps (Condition.hasId (StreamRow.id table) f.internalIds).toList
      (.condition? (Condition.hasId (StreamRow.id table) f.internalIds))
      (.condition (Condition.isId (StreamRow.id table) stream)) := .condition? _ _
  exact (Keeps.refl _).append ((Keeps.refl _).append (hids.append (.refl _)))

theorem DataStreamFilter.pin_mem_contribution {f : DataStreamFilter} {stream : Int64}
    (h : (f.contribution tables root table (some stream)).Succeeds) :
    .condition (Condition.isId (StreamRow.id table) stream) ∈
      (f.contribution tables root table (some stream)).clauses := by
  rw [contribution, mem_clauses_all h]
  exact ⟨.condition (Condition.isId (StreamRow.id table) stream), by simp,
    List.mem_singleton_self _⟩

namespace ObservationRow

/-- What a pinned stream constrains: the identifier of the stream where streams are joined, else the
column of the observation that holds it. -/
def streamKey (tables : Tables) (table : String) : Option (Linked DataStreamFilter) → Expr
  | none => dataStreamId table
  | some link =>
    match link.resolve (tables.table? .dataStream) .dataStream "dataStream" with
    | .ok (.join streams _) => StreamRow.id streams
    | _ => dataStreamId table

/-- The internal identifiers of streams that are joined, as a condition. -/
def joinedIds (tables : Tables) : Linked DataStreamFilter → List Condition :=
  Linked.behind tables .dataStream "dataStream" fun streams filter =>
    (Condition.hasId (StreamRow.id streams) filter.internalIds).toList

theorem keeps_dataStreamContribution (stream : Int64) (link : Option (Linked DataStreamFilter)) :
    Keeps (link.elim [] (joinedIds tables)) (dataStreamContribution tables root table none link)
      (dataStreamContribution tables root table (some stream) link) := by
  cases link with
  | none => exact .empty _
  | some link =>
    simp only [dataStreamContribution, Option.elim_some, joinedIds, Linked.behind]
    cases link.resolve (tables.table? .dataStream) .dataStream "dataStream" with
    | error e => exact .refl _
    | ok resolution =>
      cases resolution with
      | join streams filter => exact (Keeps.refl _).append (filter.keeps_contribution stream)
      | flat ids => exact (Keeps.refl _).append (.empty _)

theorem pin_mem_dataStreamContribution {stream : Int64} {link : Option (Linked DataStreamFilter)}
    (h : (dataStreamContribution tables root table (some stream) link).Succeeds) :
    .condition (Condition.isId (streamKey tables table link) stream) ∈
      (dataStreamContribution tables root table (some stream) link).clauses := by
  cases link with
  | none => exact List.mem_singleton_self _
  | some link =>
    simp only [dataStreamContribution, streamKey] at h ⊢
    cases hres : link.resolve (tables.table? .dataStream) .dataStream "dataStream" with
    | error e =>
      rw [hres] at h
      exact absurd h (not_succeeds_fail e)
    | ok resolution =>
      rw [hres] at h
      cases resolution with
      | join streams filter =>
        have hfilter := (succeeds_append.mp h).2
        exact List.mem_append_right _ (DataStreamFilter.pin_mem_contribution hfilter)
      | flat ids =>
        obtain ⟨hids, -⟩ := succeeds_append.mp h
        show _ ∈ (_ ++ _ : Contribution).clauses
        rw [clauses_append hids]
        exact List.mem_append_right _ (List.mem_singleton_self _)

end ObservationRow

/-! ## Pinned statistics -/

/-- The condition whose place the pinned stream takes, if there is any. -/
def StatisticsFilter.replaced (tables : Tables) (f : StatisticsFilter) : List Condition :=
  if f.dataStreamId = none then []
  else f.observations.dataStream.elim [] (ObservationRow.joinedIds tables)

/-- A pinned feature, or none where it is `noFeature`. -/
def ObservationRow.featurePin (table : String) (feature : Int64) : Condition :=
  if feature = noFeature then .of (.isNull (ObservationRow.foiId table))
  else .isId (ObservationRow.foiId table) feature

theorem ObservationRow.foiIdContribution_singleton (feature : Int64) :
    foiIdContribution table (.singleton feature) = .condition (featurePin table feature) := by
  unfold foiIdContribution featurePin Condition.hasFeature Condition.idTests
  by_cases h : feature = noFeature
  · subst h
    rfl
  · have hmem : noFeature ∉ (SortedSet.singleton feature : IdSet) := by
      simpa [SortedSet.mem_def] using Ne.symm h
    have hfilter : (SortedSet.singleton feature : IdSet).filter (· != noFeature) =
        .singleton feature := by
      ext1
      simp [h]
    rw [if_neg hmem, hfilter, if_neg h]
    rfl

open ObservationRow in
theorem StatisticsFilter.keeps_contribution (f : StatisticsFilter) :
    Keeps (f.replaced tables) (f.observations.contribution tables root table)
      (f.contribution tables root table) := by
  have hstream : Keeps (f.replaced tables)
      (dataStreamContribution tables root table none f.observations.dataStream)
      (dataStreamContribution tables root table f.dataStreamId f.observations.dataStream) := by
    unfold replaced
    cases f.dataStreamId with
    | none => exact .refl _
    | some stream => exact keeps_dataStreamContribution stream _
  exact hstream.append ((Keeps.refl _).append (.after _ (.refl _)))

open ObservationRow in
theorem StatisticsFilter.streamPin_mem_contribution {f : StatisticsFilter} {stream : Int64}
    (h : (f.contribution tables root table).Succeeds) (hstream : f.dataStreamId = some stream) :
    .condition (Condition.isId (streamKey tables table f.observations.dataStream) stream) ∈
      (f.contribution tables root table).clauses := by
  have hfirst : (dataStreamContribution tables root table f.dataStreamId
      f.observations.dataStream).Succeeds := (succeeds_append.mp h).1
  rw [contribution, mem_clauses_all h]
  refine ⟨dataStreamContribution tables root table f.dataStreamId f.observations.dataStream,
    List.mem_cons_self, ?_⟩
  rw [hstream] at hfirst ⊢
  exact pin_mem_dataStreamContribution hfirst

open ObservationRow in
theorem StatisticsFilter.featurePin_mem_contribution {f : StatisticsFilter} {feature : Int64}
    (h : (f.contribution tables root table).Succeeds) (hfeature : f.foiId = some feature) :
    .condition (featurePin table feature) ∈ (f.contribution tables root table).clauses := by
  rw [contribution, mem_clauses_all h]
  refine ⟨.ofOption (fun feature => foiIdContribution table (.singleton feature)) f.foiId,
    by simp, ?_⟩
  rw [hfeature]
  show _ ∈ (foiIdContribution table (.singleton feature)).clauses
  rw [foiIdContribution_singleton]
  exact List.mem_singleton_self _

/-- The query of some statistics joins the same tables as that of the observations, and has the same
shape. -/
theorem StatisticsFilter.include_eq (f : StatisticsFilter)
    (hp : (f.observations.contribution tables table table).Succeeds)
    (hq : (f.contribution tables table table).Succeeds) :
    let p := (Query.ofTable table).include (f.observations.contribution tables table table)
    let q := (Query.ofTable table).include (f.contribution tables table table)
    q.joins = p.joins ∧ q.distinct = p.distinct ∧ q.orderBy = p.orderBy := by
  have hbrings : (f.observations.contribution tables table table).Brings _ _ :=
    f.observations.brings_contribution
  have hshapes : (f.observations.contribution tables table table).Shapes table _ _ :=
    f.observations.shapes_contribution
  simp only [Query.include]
  refine ⟨?_, ?_, ?_⟩
  · rw [Query.joins_addAll, Query.joins_addAll, f.brings_contribution.joins hq, hbrings.joins hp]
  · rw [Query.distinct_addAll, Query.distinct_addAll, f.shapes_contribution.distincts hq,
      hshapes.distincts hp]
  · rw [Query.orderBy_addAll, Query.orderBy_addAll, f.shapes_contribution.orderKeys hq,
      hshapes.orderKeys hp]

/-- **The query of some statistics joins, groups and orders as the query of the observations does.
It has its conditions, but for one: a pinned stream takes the place of the internal identifiers of
joined streams. Besides, it has the condition of each pin.** -/
theorem pins_of_compile {s : StatisticsFilter} {p q : Query}
    (hp : compile tables (.observation s.observations) = .ok p)
    (hq : compile tables (.observationStatistics s) = .ok q) :
    q.table = p.table ∧ q.joins = p.joins ∧ q.distinct = p.distinct ∧ q.orderBy = p.orderBy ∧
      (∀ c ∈ p.conditions, c.text ∈ q.conditions.map Condition.text ∨ c ∈ s.replaced tables) ∧
      (∀ stream ∈ s.dataStreamId,
        (Condition.isId (ObservationRow.streamKey tables q.table s.observations.dataStream)
          stream).text ∈ q.conditions.map Condition.text) ∧
      ∀ feature ∈ s.foiId,
        (ObservationRow.featurePin q.table feature).text ∈ q.conditions.map Condition.text := by
  obtain ⟨table, ht, hplain, -, rfl⟩ := compile_eq_ok.mp hp
  obtain ⟨table', ht', hpinned, -, rfl⟩ := compile_eq_ok.mp hq
  obtain rfl : table = table' := Option.some.inj (ht.symm.trans ht')
  have hp' : (s.observations.contribution tables table table).Succeeds := hplain
  have hq' : (s.contribution tables table table).Succeeds := hpinned
  have hkept : ∀ c, .condition c ∈ (s.contribution tables table table).clauses → c.text ∈
      ((Query.ofTable table).include (s.contribution tables table table)).conditions.map
        Condition.text := fun c hc => Query.text_mem_conditions_addAll _ _ hc
  have htable : ∀ f : Filter,
      ((Query.ofTable table).include (f.contribution tables table table)).table = table :=
    fun f => Query.table_addAll _ _
  dsimp only
  rw [htable, htable]
  obtain ⟨hjoins, hdistinct, horder⟩ := s.include_eq hp' hq'
  refine ⟨rfl, hjoins, hdistinct, horder, fun c hc => ?_, fun stream hstream => ?_,
    fun feature hfeature => ?_⟩
  · rcases Query.mem_conditions_addAll _ _ hc with hnil | hc
    · cases hnil
    · exact (s.keeps_contribution hp' hq' c hc).imp_left (hkept c)
  · exact hkept _ (StatisticsFilter.streamPin_mem_contribution hq' hstream)
  · exact hkept _ (StatisticsFilter.featurePin_mem_contribution hq' hfeature)

/-- Statistics of one named stream, and of the observations of no feature. -/
theorem pins_named_stream :
    let tables : Tables := { observation := some "obs", dataStream := some "streams" }
    let s : StatisticsFilter :=
      { observations := { dataStream := some (.filter { outputNames := .singleton "t" }) },
        dataStreamId := some 7, foiId := some noFeature }
    ∃ p q, compile tables (.observation s.observations) = .ok p ∧
      compile tables (.observationStatistics s) = .ok q ∧ s.replaced tables = [] ∧
      (∀ c ∈ p.conditions, c.text ∈ q.conditions.map Condition.text) ∧
      (Condition.isId (.column "streams" "id") 7).text ∈ q.conditions.map Condition.text ∧
      (Condition.of (.isNull (.column "obs" "foiid"))).text ∈ q.conditions.map Condition.text := by
  intro tables s
  have hp : ∃ p, compile tables (.observation s.observations) = .ok p := ⟨_, rfl⟩
  have hq : ∃ q, compile tables (.observationStatistics s) = .ok q := ⟨_, rfl⟩
  obtain ⟨p, hp⟩ := hp
  obtain ⟨q, hq⟩ := hq
  obtain ⟨-, -, -, -, hkept, hstream, hfeature⟩ := pins_of_compile hp hq
  have htable : q.table = "obs" := by
    cases hq
    rfl
  rw [htable] at hstream hfeature
  refine ⟨p, q, hp, hq, rfl, fun c hc => ?_, hstream 7 rfl, hfeature noFeature rfl⟩
  exact (hkept c hc).resolve_right List.not_mem_nil

/-- Where streams are joined, statistics of stream 7 among the streams 1 and 2 are those of stream
7: the condition on the streams 1 and 2 is gone. -/
theorem pins_other_stream :
    let tables : Tables := { observation := some "obs", dataStream := some "ds" }
    let s : StatisticsFilter :=
      { observations := { dataStream := some (.filter { internalIds := .ofList [1, 2] }) },
        dataStreamId := some 7 }
    ∃ p q, compile tables (.observation s.observations) = .ok p ∧
      compile tables (.observationStatistics s) = .ok q ∧
      p.conditions.map Condition.text = ["ds.id IN (1, 2)"] ∧
      q.conditions.map Condition.text = ["ds.id = 7"] ∧
      ¬ ∀ c ∈ p.conditions, c.text ∈ q.conditions.map Condition.text := by
  intro tables s
  refine ⟨_, _, rfl, rfl, by decide, by decide, by decide⟩

end ObservationQuery
