import ObservationQuery.Proofs.Admissible
import ObservationQuery.Proofs.Sql.Truth

/-!
# Observations by identifiers and times

A filter on observations is flat if it names the data streams and the features by bare identifiers
and constrains times to ranges. All its conditions test columns of the observation.

* `StoredObservation` — the values of these columns.
* `ObservationFilter.Flat` — a flat filter; `ObservationFilter.Selects` — what it says of an
  observation.
* `Contribution.Decides` — the conditions of a contribution can be read, and are true together
  where a proposition is.

Principal result: `conditions_hold_iff` — the conditions of the query of a flat filter hold of an
observation exactly where the filter selects it.
-/

namespace ObservationQuery

open Sql

/-! ## What flat filters say -/

/-- The columns of an observation that criteria test, times in whole seconds. -/
structure StoredObservation where
  dataStreamId : Int64
  /-- The observed feature, if there is one. -/
  foiId : Option Int64
  phenomenonTime : Int
  resultTime : Int
  deriving DecidableEq, Repr

/-- The columns with their values; a null is `none`. -/
def StoredObservation.columns (o : StoredObservation) : List (String × Option Int) :=
  [("datastreamid", some o.dataStreamId.toInt), ("foiid", o.foiId.map Int64.toInt),
    ("phenomenonTime", some o.phenomenonTime), ("resultTime", some o.resultTime)]

/-- A link names identifiers. -/
def Linked.IsIds {F : Type} : Linked F → Prop
  | ids _ => True
  | filter _ => False

/-- A criterion is a range whose bounds are no leap seconds. -/
def TimeFilter.IsSteadyRange : TimeFilter → Prop
  | latest => False
  | range first last _ => first.nanos < 1000000000 ∧ last.nanos < 1000000000

/-- The filter names streams and features by bare identifiers and constrains times to ranges. -/
structure ObservationFilter.Flat (f : ObservationFilter) : Prop where
  dataStream : ∀ link ∈ f.dataStream, link.IsIds
  foi : ∀ link ∈ f.foi, link.IsIds
  phenomenonTime : ∀ time ∈ f.phenomenonTime, time.IsSteadyRange
  resultTime : ∀ time ∈ f.resultTime, time.IsSteadyRange

/-- A time lies in the range of a criterion, to the second. -/
def TimeFilter.Spans (second : Int) : TimeFilter → Prop
  | latest => False
  | range first last _ => first.seconds ≤ second ∧ second ≤ last.seconds

/-- A flat filter describes an observation. -/
structure ObservationFilter.Selects (f : ObservationFilter) (o : StoredObservation) : Prop where
  dataStream : ∀ ids, f.dataStream = some (.ids ids) → ids = ∅ ∨ o.dataStreamId ∈ ids
  /-- The identifier `noFeature` stands for observations without a feature. -/
  foi : ∀ ids, f.foi = some (.ids ids) →
    ids = ∅ ∨ (o.foiId = none ∧ noFeature ∈ ids) ∨ ∃ id ∈ ids, id ≠ noFeature ∧ o.foiId = some id
  phenomenonTime : ∀ time ∈ f.phenomenonTime, time.Spans o.phenomenonTime
  resultTime : ∀ time ∈ f.resultTime, time.Spans o.resultTime

/-! ## Conditions of a contribution -/

/-- The conditions among the clauses can be read, and are all true where `P` is. -/
structure Contribution.Decides (column : Reader (Option Int)) (P : Prop) (c : Contribution) :
    Prop where
  readable : ∀ d, .condition d ∈ c.clauses → (readCondition column d.text).isSome
  hold_iff : (∀ d, .condition d ∈ c.clauses → readCondition column d.text = some (some true)) ↔ P

namespace Contribution.Decides

variable {column : Reader (Option Int)} {a b : Contribution} {P Q : Prop}

theorem empty : Decides column True {} := by
  constructor <;> simp

theorem congr (ha : a.Decides column P) (h : P ↔ Q) : a.Decides column Q :=
  ⟨ha.readable, ha.hold_iff.trans h⟩

theorem condition {c : Condition} {t : Truth} (h : readCondition column c.text = some t) :
    (condition c).Decides column (t = some true) := by
  have hmem : ∀ d, Clause.condition d ∈ (Contribution.condition c).clauses ↔ d = c := by
    simp [Contribution.condition, clause]
  constructor
  · intro d hd
    rw [(hmem d).mp hd, h]
    rfl
  · simp only [hmem, forall_eq, h, Option.some.injEq]

theorem append (hs : a.Succeeds) (ha : a.Decides column P) (hb : b.Decides column Q) :
    (a ++ b).Decides column (P ∧ Q) := by
  constructor
  · intro d hd
    rw [clauses_append hs] at hd
    exact (List.mem_append.mp hd).elim (ha.readable d) (hb.readable d)
  · rw [clauses_append hs, ← ha.hold_iff, ← hb.hold_iff]
    simp only [List.mem_append, or_imp, forall_and]

/-- A query has the texts of the conditions among the clauses that it includes. -/
theorem include_ofTable (h : a.Decides column P) (table : String) :
    (∀ c ∈ ((Query.ofTable table).include a).conditions,
      (readCondition column c.text).isSome) ∧
    ((∀ c ∈ ((Query.ofTable table).include a).conditions,
      readCondition column c.text = some (some true)) ↔ P) := by
  have hclause : ∀ c ∈ ((Query.ofTable table).include a).conditions, .condition c ∈ a.clauses :=
    fun c hc => (Query.mem_conditions_addAll _ _ hc).resolve_left List.not_mem_nil
  refine ⟨fun c hc => h.readable c (hclause c hc), ?_⟩
  rw [← h.hold_iff]
  refine ⟨fun hall d hd => ?_, fun hall c hc => hall c (hclause c hc)⟩
  obtain ⟨c, hc, htext⟩ :=
    List.mem_map.mp (Query.text_mem_conditions_addAll (Query.ofTable table) a.clauses hd)
  rw [← htext]
  exact hall c hc

end Contribution.Decides

/-! ## Conditions on the columns of an observation -/

namespace StoredObservation

variable {o : StoredObservation} {table name : String} {value : Option Int}

theorem prefixFree_columns (o : StoredObservation) : PrefixFree o.columns := by
  simp [PrefixFree, columns]

/-- Alternatives of tests of a column are no constraint if there are none, and else hold where one
of them has the outcome. -/
theorem decides_anyOf? (hmem : (name, value) ∈ o.columns) {ps : List Predicate}
    (hps : ∀ p ∈ ps, p.Tests (.column table name)) :
    (Contribution.condition? (Condition.anyOf? ps)).Decides (readColumn table o.columns)
      (ps = [] ∨ ∃ p ∈ ps, p.outcome value = some true) := by
  have hread := readCondition_anyOf? (readColumn_text o.prefixFree_columns hmem)
    (fun hne hdot rest => readColumn_led table o.columns name hne hdot rest) hps
  cases ps with
  | nil => exact Contribution.Decides.empty.congr (by simp)
  | cons p ps =>
    refine (Contribution.Decides.condition (hread _ rfl)).congr ?_
    rw [Truth.any_eq_true, List.mem_map]
    simp

/-- A range of a criterion holds where it spans the time of the column. -/
theorem decides_range {second : Int} (hmem : (name, some second) ∈ o.columns)
    (hfinite : second ∈ Set.Icc firstFiniteSecond lastFiniteSecond) {root : String}
    {time : TimeFilter} (hsteady : time.IsSteadyRange)
    (hs : (time.contribution root (ObservationRow.timed table name)).Succeeds) :
    (time.contribution root (ObservationRow.timed table name)).Decides
      (readColumn table o.columns) (time.Spans second) := by
  cases time with
  | latest => exact hsteady.elim
  | range first last relation =>
    obtain ⟨hfirst, hlast⟩ := hsteady
    have hle : first ≤ last := (TimeFilter.succeeds_contribution root _).mp hs
    have hread := readCondition_liesWithin (readColumn_text o.prefixFree_columns hmem)
      (fun hne hdot rest => readColumn_led table o.columns name hne hdot rest) hfirst hlast
    have hcontribution : (TimeFilter.range first last relation).contribution root
        (ObservationRow.timed table name) =
          .condition (.of (.liesWithin (.column table name) first last)) := by
      rw [TimeFilter.contribution, TimeCriterion.resolve, if_pos hle]
      rfl
    rw [hcontribution]
    refine (Contribution.Decides.condition hread).congr ?_
    rw [Option.map_some, Option.some.injEq, decide_eq_true_eq, Range.contains_ofInstant hfinite]
    rfl

end StoredObservation

/-! ## Tests of identifiers -/

namespace SortedSet

variable {α : Type} [LT α] {a : α} {s : SortedSet α} {p : α → Bool}

theorem mem_filter : a ∈ s.filter p ↔ a ∈ s ∧ p a = true := List.mem_filter

theorem eq_empty_iff : s = ∅ ↔ ∀ a, a ∉ s := by
  rw [← SortedSet.isEmpty_iff, SortedSet.isEmpty, List.isEmpty_iff,
    List.eq_nil_iff_forall_not_mem]
  rfl

end SortedSet

namespace Condition

variable {e : Expr} {ids : IdSet} {value : Option Int}

theorem tests_idTests : ∀ p ∈ idTests e ids, p.Tests e := by
  intro p hp
  unfold idTests at hp
  split at hp
  · cases hp
  · rename_i hne
    rw [List.mem_singleton.mp hp]
    exact .inr ⟨ids, fun hnil => hne (List.isEmpty_iff.mpr hnil), rfl⟩

theorem idTests_eq_nil : idTests e ids = [] ↔ ids = ∅ := by
  unfold idTests
  split <;> simp [← SortedSet.isEmpty_iff, *]

/-- The value is one of the identifiers where a test of them says so. -/
theorem exists_mem_idTests :
    (∃ p ∈ idTests e ids, p.outcome value = some true) ↔ ∃ id ∈ ids, value = some id.toInt := by
  unfold idTests
  split
  · rename_i hempty
    rw [SortedSet.isEmpty_iff.mp hempty]
    simp [SortedSet.mem_def]
  · simp [Predicate.outcome, isAny_eq_true, SortedSet.mem_def]

end Condition

/-! ## Criteria -/

namespace StoredObservation

variable {o : StoredObservation} {tables : Tables} {root table : String}

/-- The condition on the data stream holds of the observations of the streams. -/
theorem decides_dataStream {link? : Option (Linked DataStreamFilter)}
    (hflat : ∀ link ∈ link?, link.IsIds) :
    (ObservationRow.dataStreamContribution tables root table none link?).Decides
      (readColumn table o.columns)
      (∀ ids, link? = some (.ids ids) → ids = ∅ ∨ o.dataStreamId ∈ ids) := by
  match link? with
  | none => exact Contribution.Decides.empty.congr (by simp)
  | some (.filter f) => exact (hflat _ rfl).elim
  | some (.ids ids) =>
    show (Contribution.condition? (Condition.hasId _ ids) ++ ({} : Contribution)).Decides _ _
    rw [Contribution.append_empty]
    have hmem : ("datastreamid", some o.dataStreamId.toInt) ∈ o.columns := by simp [columns]
    refine (decides_anyOf? hmem Condition.tests_idTests).congr ?_
    rw [Condition.idTests_eq_nil, Condition.exists_mem_idTests]
    simp [Int64.toInt_inj]

/-- The condition on the feature holds of the observations of the features, where `noFeature`
stands for observations of none. -/
theorem decides_foiIds (ids : IdSet) :
    (ObservationRow.foiIdContribution table ids).Decides (readColumn table o.columns)
      (ids = ∅ ∨ (o.foiId = none ∧ noFeature ∈ ids) ∨
        ∃ id ∈ ids, id ≠ noFeature ∧ o.foiId = some id) := by
  have hmem : ("foiid", o.foiId.map Int64.toInt) ∈ o.columns := by simp [columns]
  have htests : ∀ p ∈ (if noFeature ∈ ids then [Predicate.isNull (ObservationRow.foiId table)]
      else []) ++ Condition.idTests (ObservationRow.foiId table) (ids.filter (· != noFeature)),
      p.Tests (ObservationRow.foiId table) := by
    intro p hp
    rcases List.mem_append.mp hp with hp | hp
    · split at hp
      · exact .inl (List.mem_singleton.mp hp)
      · cases hp
    · exact Condition.tests_idTests p hp
  -- `noFeature` gives the test of null and the others give one more, so that there is no test only
  -- where there are no identifiers.
  refine (decides_anyOf? hmem htests).congr (or_congr ?_ ?_)
  · rw [List.append_eq_nil_iff, Condition.idTests_eq_nil, SortedSet.eq_empty_iff,
      SortedSet.eq_empty_iff]
    by_cases hno : noFeature ∈ ids
    · rw [if_pos hno]
      exact iff_of_false (fun h => List.cons_ne_nil _ _ h.1) fun h => h _ hno
    · rw [if_neg hno]
      refine ⟨fun h id hid => h.2 id (SortedSet.mem_filter.mpr ⟨hid, ?_⟩), fun h => ⟨rfl, ?_⟩⟩
      · exact bne_iff_ne.mpr fun heq => hno (heq ▸ hid)
      · exact fun id hid => h id (SortedSet.mem_filter.mp hid).1
  · simp only [List.mem_append, or_and_right, exists_or]
    rw [Condition.exists_mem_idTests]
    refine or_congr ?_ (exists_congr fun id => ?_)
    · by_cases hno : noFeature ∈ ids <;> simp [hno, Predicate.outcome]
    · rw [SortedSet.mem_filter, bne_iff_ne, Option.map_eq_some_iff]
      simp [Int64.toInt_inj, and_assoc]

/-- The condition on a time holds of the times in its range. -/
theorem decides_time {time? : Option TimeFilter} {name : String} {second : Int}
    (hmem : (name, some second) ∈ o.columns)
    (hfinite : second ∈ Set.Icc firstFiniteSecond lastFiniteSecond)
    (hsteady : ∀ time ∈ time?, time.IsSteadyRange)
    (hs : (Contribution.ofOption (fun time : TimeFilter =>
      time.contribution root (ObservationRow.timed table name)) time?).Succeeds) :
    (Contribution.ofOption (fun time : TimeFilter =>
      time.contribution root (ObservationRow.timed table name)) time?).Decides
        (readColumn table o.columns) (∀ time ∈ time?, time.Spans second) := by
  cases time? with
  | none => exact Contribution.Decides.empty.congr (by simp)
  | some time => exact (decides_range hmem hfinite (hsteady time rfl) hs).congr (by simp)

end StoredObservation

open StoredObservation in
/-- The conditions of a flat filter hold of the observations that it selects. -/
theorem ObservationFilter.decides_contribution {tables : Tables} {root table : String}
    {f : ObservationFilter} {o : StoredObservation} (hf : f.Flat)
    (hphenomenon : o.phenomenonTime ∈ Set.Icc firstFiniteSecond lastFiniteSecond)
    (hresult : o.resultTime ∈ Set.Icc firstFiniteSecond lastFiniteSecond)
    (hs : (f.contribution tables root table).Succeeds) :
    (f.contribution tables root table).Decides (readColumn table o.columns) (f.Selects o) := by
  obtain ⟨hstream, hrest⟩ := Contribution.succeeds_append.mp hs
  obtain ⟨hfoi, htimes⟩ := Contribution.succeeds_append.mp hrest
  obtain ⟨htimes, -⟩ := Contribution.succeeds_append.mp htimes
  obtain ⟨hfirst, hsecond⟩ := Contribution.succeeds_append.mp htimes
  have hdata : (ObservationRow.dataStreamContribution tables root table none f.dataStream).Decides
      (readColumn table o.columns) _ := decides_dataStream hf.dataStream
  have hfeature : (Contribution.ofOption
      (ObservationRow.foiContribution tables root table f.phenomenonTime) f.foi).Decides
      (readColumn table o.columns) (∀ ids, f.foi = some (.ids ids) →
        ids = ∅ ∨ (o.foiId = none ∧ noFeature ∈ ids) ∨
          ∃ id ∈ ids, id ≠ noFeature ∧ o.foiId = some id) := by
    match hlink : f.foi with
    | none => exact Contribution.Decides.empty.congr (by simp)
    | some (.filter g) => exact (hf.foi _ hlink).elim
    | some (.ids ids) => exact (decides_foiIds ids).congr (by simp)
  have hphen := decides_time (o := o) (by simp [columns]) hphenomenon hf.phenomenonTime hfirst
  have hres := decides_time (o := o) (by simp [columns]) hresult hf.resultTime hsecond
  have hall := hdata.append hstream (hfeature.append hfoi
    ((hphen.append hfirst hres).append htimes .empty))
  refine hall.congr ⟨?_, fun h => ?_⟩
  · rintro ⟨hdata, hfeature, ⟨hphen, hres⟩, -⟩
    exact ⟨hdata, hfeature, hphen, hres⟩
  · exact ⟨h.dataStream, h.foi, ⟨h.phenomenonTime, h.resultTime⟩, trivial⟩

/-- **Each condition of the query of a flat filter can be read, and all of them are true of an
observation exactly where the filter selects it.** -/
theorem conditions_hold_iff {tables : Tables} {f : ObservationFilter} {q : Query}
    (h : compile tables (.observation f) = .ok q) (hf : f.Flat) {o : StoredObservation}
    (hphenomenon : o.phenomenonTime ∈ Set.Icc firstFiniteSecond lastFiniteSecond)
    (hresult : o.resultTime ∈ Set.Icc firstFiniteSecond lastFiniteSecond) :
    (∀ c ∈ q.conditions, (readCondition (readColumn q.table o.columns) c.text).isSome) ∧
      ((∀ c ∈ q.conditions,
        readCondition (readColumn q.table o.columns) c.text = some (some true)) ↔
          f.Selects o) := by
  obtain ⟨-, hs, hq⟩ := contribution_of_compile h
  have hconditions : q.conditions = ((Query.ofTable q.table).include
      (f.contribution tables q.table q.table)).conditions :=
    (congrArg Query.conditions hq).trans rfl
  have hdecides : (f.contribution tables q.table q.table).Decides
      (readColumn q.table o.columns) _ :=
    ObservationFilter.decides_contribution hf hphenomenon hresult hs
  rw [hconditions]
  exact hdecides.include_ofTable q.table

/-- A filter on the streams 3 and 7, the feature 5 or none, and times from the middle of the first
second of 1970 selects an observation in stream 7 of no feature at the start of that second. -/
theorem conditions_hold_mixed :
    let tables : Tables := { observation := some "obs" }
    let start : Instant := ⟨0, 500000000, by decide, by decide, by decide, by decide⟩
    let late : Instant := ⟨32503680001, 0, by decide, by decide, by decide, by decide⟩
    let f : ObservationFilter :=
      { dataStream := some (.ids (.ofList [3, 7])), foi := some (.ids (.ofList [5, noFeature])),
        phenomenonTime := some (.between start late), resultTime := some (.moment start) }
    let o : StoredObservation := ⟨7, none, 0, 0⟩
    f.Flat ∧ f.Selects o ∧ ∃ q, compile tables (.observation f) = .ok q ∧
      ∀ c ∈ q.conditions, readCondition (readColumn q.table o.columns) c.text =
        some (some true) := by
  intro tables start late f o
  have hflat : f.Flat := by
    constructor <;> simp [f, Linked.IsIds, TimeFilter.IsSteadyRange, TimeFilter.between,
      TimeFilter.moment, start, late]
  have hselects : f.Selects o := by
    constructor
    · rintro ids ⟨⟩
      exact .inr (SortedSet.mem_ofList.mpr (by simp [o]))
    · rintro ids ⟨⟩
      exact .inr (.inl ⟨rfl, SortedSet.mem_ofList.mpr (by simp)⟩)
    · simp [f, o, TimeFilter.Spans, TimeFilter.between, start, late]
    · simp [f, o, TimeFilter.Spans, TimeFilter.between, TimeFilter.moment, start]
  have hq : ∃ q, compile tables (.observation f) = .ok q := ⟨_, rfl⟩
  obtain ⟨q, hq⟩ := hq
  obtain ⟨-, hhold⟩ := conditions_hold_iff hq hflat (o := o) ⟨by decide, by decide⟩
    ⟨by decide, by decide⟩
  exact ⟨hflat, hselects, q, hq, hhold.mpr hselects⟩

end ObservationQuery
