import ObservationQuery.Proofs.Compile.Parts
import ObservationQuery.Proofs.Merge

/-!
# Criteria on their own

A filter is compiled like the filters that keep one of its criteria each, one after another.

* `SystemFilter.criteria`, … and `Filter.criteria` — the filters with one criterion each, in the
  order of dispatch.
* `Filter.compileAllInto` — filters added to a query one after another, up to the first that fails.

Principal result: `compileInto_eq_compileAllInto` — a filter leaves of any query what its criteria
leave of it, and the error of the first of them that fails; what a criterion contributes to the
filter is what it contributes alone.
-/

namespace ObservationQuery

/-! ## One criterion -/

/-- The filters with one criterion each. -/
def FeatureFilter.criteria (f : FeatureFilter) : List FeatureFilter :=
  [{ parent := f.parent }, { observations := f.observations },
    { sampledFeature := f.sampledFeature }, { internalIds := f.internalIds },
    { uniqueIds := f.uniqueIds }, { location := f.location }, { fullText := f.fullText },
    { validTime := f.validTime }]

/-- The filters with one criterion each. Members are wanted of the systems that are named by
internal identifier, so these two stay together. -/
def SystemFilter.criteria (f : SystemFilter) : List SystemFilter :=
  [{ parent := f.parent }, { procedure := f.procedure }, { dataStreams := f.dataStreams },
    { internalIds := f.internalIds, includeMembers := f.includeMembers },
    { uniqueIds := f.uniqueIds }, { location := f.location }, { fullText := f.fullText },
    { validTime := f.validTime }]

/-- The filters with one criterion each. -/
def DataStreamFilter.criteria (f : DataStreamFilter) : List DataStreamFilter :=
  [{ system := f.system }, { observations := f.observations }, { internalIds := f.internalIds },
    { fullText := f.fullText }, { outputNames := f.outputNames },
    { observedProperties := f.observedProperties }, { validTime := f.validTime }]

/-- The filters with one criterion each. -/
def CommandStreamFilter.criteria (f : CommandStreamFilter) : List CommandStreamFilter :=
  [{ system := f.system }, { commands := f.commands }, { internalIds := f.internalIds },
    { fullText := f.fullText }, { controlInputNames := f.controlInputNames },
    { taskableProperties := f.taskableProperties }, { validTime := f.validTime }]

/-- The filters with one criterion each. -/
def CommandFilter.criteria (f : CommandFilter) : List CommandFilter :=
  [{ commandStream := f.commandStream }, { internalIds := f.internalIds },
    { senderIds := f.senderIds }, { foiIds := f.foiIds }, { issueTime := f.issueTime }]

/-- The filters with one criterion each. The phenomenon time also tells the versions of the features
apart, so these two stay together. -/
def ObservationFilter.criteria (f : ObservationFilter) : List ObservationFilter :=
  [{ dataStream := f.dataStream }, { foi := f.foi, phenomenonTime := f.phenomenonTime },
    { resultTime := f.resultTime }]

/-- The same for statistics. A pin stays with the criterion that it narrows. -/
def StatisticsFilter.criteria (f : StatisticsFilter) : List StatisticsFilter :=
  let obs := f.observations
  [{ observations := { dataStream := obs.dataStream }, dataStreamId := f.dataStreamId },
    { observations := { foi := obs.foi, phenomenonTime := obs.phenomenonTime }, foiId := f.foiId },
    { observations := { resultTime := obs.resultTime } }]

/-- The filters that keep one criterion of a filter each and no other, in the order of dispatch. -/
def Filter.criteria : Filter → List Filter
  | observation f => f.criteria.map observation
  | observationStatistics f => f.criteria.map observationStatistics
  | dataStream f => f.criteria.map dataStream
  | featureOfInterest f => f.criteria.map featureOfInterest
  | system f => f.criteria.map system
  | commandStream f => f.criteria.map commandStream
  | command f => f.criteria.map command

/-! ## Absent criteria contribute nothing -/

open Contribution

variable {tables : Tables} {root table : String} {α : Type}

@[simp] theorem Contribution.ofOption_none (f : α → Contribution) : ofOption f none = {} := rfl

@[simp] theorem Contribution.unsupported_none (e : Entity) (field : String) :
    unsupported e field (none : Option α) = {} := rfl

@[simp] theorem Contribution.condition?_none : condition? none = {} := rfl

namespace Condition

@[simp] theorem hasId_empty (e : Expr) : hasId e ∅ = none := rfl

@[simp] theorem hasName_empty (e : Expr) : hasName e ∅ = none := rfl

@[simp] theorem hasFeature_empty (e : Expr) : hasFeature e ∅ = none := rfl

end Condition

namespace FeatureRow

@[simp] theorem uniqueIdContribution_empty : uniqueIdContribution table ∅ = {} := rfl

end FeatureRow

namespace StreamRow

@[simp] theorem nameContribution_empty (member : String) :
    nameContribution table member ∅ = {} := rfl

@[simp] theorem propertyContribution_empty : propertyContribution table ∅ = {} := rfl

end StreamRow

/-! ## Contributions -/

theorem FeatureFilter.contribution_eq_all (f : FeatureFilter) : f.contribution root table =
    .all (f.criteria.map (contribution root table)) := by
  simp [contribution, criteria]

theorem SystemFilter.contribution_eq_all (f : SystemFilter) : f.contribution root table =
    .all (f.criteria.map (contribution root table)) := by
  have hnone : ∀ g : SystemFilter, g.internalIds = ∅ → g.idCondition? table = none := by
    intro g hg
    unfold idCondition?
    rw [hg]
    cases g.includeMembers <;> rfl
  have hids : ({ internalIds := f.internalIds, includeMembers := f.includeMembers } :
      SystemFilter).idCondition? table = f.idCondition? table := rfl
  simp [contribution, criteria, hnone, hids]

theorem DataStreamFilter.contribution_eq_all (f : DataStreamFilter) :
    f.contribution tables root table none =
      .all (f.criteria.map (contribution tables root table none)) := by
  simp [contribution, criteria]

theorem CommandStreamFilter.contribution_eq_all (f : CommandStreamFilter) :
    f.contribution tables root table = .all (f.criteria.map (contribution tables root table)) := by
  simp [contribution, criteria]

theorem CommandFilter.contribution_eq_all (f : CommandFilter) :
    f.contribution tables root table = .all (f.criteria.map (contribution tables root table)) := by
  simp [contribution, ownContribution, criteria]

namespace ObservationRow

@[simp] theorem dataStreamContribution_none :
    dataStreamContribution tables root table none none = {} := rfl

end ObservationRow

theorem ObservationFilter.contribution_eq_all (f : ObservationFilter) :
    f.contribution tables root table = .all (f.criteria.map (contribution tables root table)) := by
  simp [contribution, ObservationRow.timesContribution, criteria]

theorem StatisticsFilter.contribution_eq_all (f : StatisticsFilter) :
    f.contribution tables root table = .all (f.criteria.map (contribution tables root table)) := by
  simp [contribution, ObservationRow.timesContribution, criteria]

theorem Filter.contribution_eq_all (f : Filter) : f.contribution tables root table =
    .all (f.criteria.map (contribution tables root table)) := by
  cases f with
  | observation f => exact f.contribution_eq_all
  | observationStatistics f => exact f.contribution_eq_all
  | dataStream f => exact f.contribution_eq_all
  | featureOfInterest f => exact f.contribution_eq_all
  | system f => exact f.contribution_eq_all
  | commandStream f => exact f.contribution_eq_all
  | command f => exact f.contribution_eq_all

/-! ## Filters one after another -/

namespace Filter

/-- A query after some filters whose rows are in `table`, up to the first that fails. -/
def compileAllInto (tables : Tables) (table : String) :
    List Filter → Query → Query × Option CompileError
  | [], q => (q, none)
  | f :: fs, q =>
    match f.compileInto tables table none q with
    | (q, none) => compileAllInto tables table fs q
    | (q, some e) => (q, some e)

theorem compileInto_none (f : Filter) (q : Query) : f.compileInto tables table none q =
    (q.include (f.contribution tables q.table table),
      (f.contribution tables q.table table).error) := by
  rw [compileInto, pinnedContribution_none]

/-- Filters one after another contribute what they contribute together. -/
theorem compileAllInto_eq_include (fs : List Filter) : ∀ q : Query,
    compileAllInto tables table fs q =
      (q.include (.all (fs.map (contribution tables q.table table))),
        (Contribution.all (fs.map (contribution tables q.table table))).error) := by
  induction fs with
  | nil => exact fun q => rfl
  | cons f fs ih =>
    intro q
    rw [compileAllInto, compileInto_none, List.map_cons, all_cons]
    cases he : (f.contribution tables q.table table).error with
    | none =>
      have htable : (q.include (f.contribution tables q.table table)).table = q.table :=
        Query.table_addAll _ _
      rw [Query.include_append _ he]
      dsimp only
      rw [ih, htable, append_def, he]
    | some e =>
      rw [append_def, he]
      dsimp only
      rw [he]

/-- If none of the filters fails, the query is merged with what each leaves of a fresh query. -/
theorem compileAllInto_eq_foldl (fs : List Filter) : ∀ q : Query,
    (compileAllInto tables table fs q).2 = none →
      (compileAllInto tables table fs q).1 =
        (fs.map fun f => (f.compileInto tables table none (.ofTable q.table)).1).foldl
          Query.merge q := by
  induction fs with
  | nil => exact fun q _ => rfl
  | cons f fs ih =>
    intro q h
    rw [compileAllInto] at h ⊢
    have hmerge := f.compileInto_eq_merge tables table none q rfl
    rw [List.map_cons, List.foldl_cons]
    cases he : (f.compileInto tables table none (.ofTable q.table)).2 with
    | none =>
      rw [he] at hmerge
      rw [hmerge] at h ⊢
      exact ih _ h
    | some e =>
      rw [hmerge, he] at h
      cases h

end Filter

/-- **A filter leaves of any query what the filters with one of its criteria each leave of it one
after another, and fails with the first of them that fails. If it does not fail, each criterion has
contributed what it contributes alone to a fresh query.** -/
theorem compileInto_eq_compileAllInto (tables : Tables) (table : String) (f : Filter) (q : Query) :
    f.compileInto tables table none q = Filter.compileAllInto tables table f.criteria q ∧
      ((f.compileInto tables table none q).2 = none →
        (f.compileInto tables table none q).1 =
          (f.criteria.map fun g => (g.compileInto tables table none (.ofTable q.table)).1).foldl
            Query.merge q) := by
  have hall : f.compileInto tables table none q =
      Filter.compileAllInto tables table f.criteria q := by
    rw [Filter.compileAllInto_eq_include, Filter.compileInto_none, ← f.contribution_eq_all]
  refine ⟨hall, fun h => ?_⟩
  rw [hall] at h ⊢
  exact Filter.compileAllInto_eq_foldl f.criteria q h

/-- The newest result of each named stream, in a query that has a condition already. -/
theorem compileInto_latest_results :
    let f : Filter := .observation
      { dataStream := some (.ids (.singleton 7)), resultTime := some .latest }
    let q : Query := (Query.ofTable "obs").addCondition (.of (.fragment "obs.foiid = 3"))
    (f.compileInto .standard "obs" none q).2 = none ∧
      (f.compileInto .standard "obs" none q).1 =
        (f.criteria.map fun g => (g.compileInto .standard "obs" none (.ofTable q.table)).1).foldl
          Query.merge q := by
  intro f q
  exact ⟨rfl, (compileInto_eq_compileAllInto .standard "obs" f q).2 rfl⟩

end ObservationQuery
