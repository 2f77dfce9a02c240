import Mathlib.Tactic.MkIffOfInductiveProp
import ObservationQuery.Proofs.Compile.Filter

/-!
# Which filters have a query

* `TextFilter.HasKeyword`, `SpatialFilter.HasGeometry` — a criterion names something.
* `DataStreamFilter.NamesOnly`, … — a filter has nothing but identifiers and a limit.
* `Linked.Admissible` — a reference can be followed, given whether the table of the entity is
  configured.
* `FeatureFilter.Admissible`, …, `Filter.Admissible` — each criterion of a filter can be expressed.

Principal result: `compile_isOk_iff` — a filter has a query exactly when its table is configured,
its limit is not too great and it is admissible.
-/

namespace ObservationQuery

/-! ## Criteria -/

/-- A keyword is not blank. -/
def TextFilter.HasKeyword (search : TextFilter) : Prop :=
  ∃ keyword ∈ search.keywords, Text.trim keyword ≠ ""

/-- The geometry is not blank. -/
def SpatialFilter.HasGeometry (place : SpatialFilter) : Prop := Text.trim place.wkt ≠ ""

/-- Nothing is set but internal identifiers and a limit. -/
def DataStreamFilter.NamesOnly (f : DataStreamFilter) : Prop :=
  f = { internalIds := f.internalIds, limit := f.limit }

/-- Nothing is set but internal identifiers and a limit. -/
def FeatureFilter.NamesOnly (f : FeatureFilter) : Prop :=
  f = { internalIds := f.internalIds, limit := f.limit }

/-- Nothing is set but internal and unique identifiers and a limit. -/
def SystemFilter.NamesOnly (f : SystemFilter) : Prop :=
  f = { internalIds := f.internalIds, uniqueIds := f.uniqueIds, limit := f.limit }

/-- Nothing is set but internal identifiers and a limit. -/
def CommandStreamFilter.NamesOnly (f : CommandStreamFilter) : Prop :=
  f = { internalIds := f.internalIds, limit := f.limit }

/-- A reference is bare identifiers, or a filter: an admissible one where the table of the entity is
configured, one that only names identifiers where it is not. -/
def Linked.Admissible {F : Type} (table? : Option String) (namesOnly admissible : F → Prop) :
    Linked F → Prop
  | ids _ => True
  | filter f => if table?.isSome then admissible f else namesOnly f

/-- A reference to a parent is bare identifiers, or a filter that has nothing else. -/
def Linked.NamesParent {F : Type} (namesOnly : F → Prop) : Linked F → Prop
  | ids _ => True
  | filter f => namesOnly f

/-! ## Filters -/

/-- Each criterion on features can be expressed. -/
@[mk_iff]
structure FeatureFilter.Admissible (f : FeatureFilter) : Prop where
  parent : ∀ link ∈ f.parent, link.NamesParent FeatureFilter.NamesOnly
  observations : f.observations = none
  sampledFeature : f.sampledFeature = none
  location : ∀ place ∈ f.location, place.HasGeometry
  fullText : ∀ search ∈ f.fullText, search.HasKeyword
  validTime : ∀ time ∈ f.validTime, time.Ordered

/-- Each criterion on systems can be expressed. A parent has no unique identifiers. -/
@[mk_iff]
structure SystemFilter.Admissible (f : SystemFilter) : Prop where
  parent : ∀ link ∈ f.parent, link.NamesParent fun g => g.NamesOnly ∧ g.uniqueIds = ∅
  procedure : f.procedure = none
  dataStreams : f.dataStreams = none
  location : ∀ place ∈ f.location, place.HasGeometry
  fullText : ∀ search ∈ f.fullText, search.HasKeyword
  validTime : ∀ time ∈ f.validTime, time.Ordered

/-- Each criterion on data streams can be expressed. -/
structure DataStreamFilter.Admissible (tables : Tables) (f : DataStreamFilter) : Prop where
  system : ∀ link ∈ f.system,
    link.Admissible tables.system SystemFilter.NamesOnly SystemFilter.Admissible
  observations : f.observations = none
  fullText : ∀ search ∈ f.fullText, search.HasKeyword
  validTime : ∀ time ∈ f.validTime, time.Ordered

/-- Each criterion on the commands of given streams can be expressed. -/
@[mk_iff]
structure CommandFilter.ScopedAdmissible (f : CommandFilter) : Prop where
  commandStream : f.commandStream = none
  issueTime : ∀ time ∈ f.issueTime, time.Ordered

/-- Each criterion on command streams can be expressed. -/
@[mk_iff]
structure CommandStreamFilter.Admissible (tables : Tables) (f : CommandStreamFilter) : Prop where
  system : ∀ link ∈ f.system,
    link.Admissible tables.system SystemFilter.NamesOnly SystemFilter.Admissible
  commands : ∀ g ∈ f.commands, tables.command.isSome ∧ g.ScopedAdmissible
  fullText : ∀ search ∈ f.fullText, search.HasKeyword
  validTime : ∀ time ∈ f.validTime, time.Ordered

/-- Each criterion on commands can be expressed. -/
@[mk_iff]
structure CommandFilter.Admissible (tables : Tables) (f : CommandFilter) : Prop where
  commandStream : ∀ link ∈ f.commandStream, link.Admissible tables.commandStream
    CommandStreamFilter.NamesOnly (CommandStreamFilter.Admissible tables)
  issueTime : ∀ time ∈ f.issueTime, time.Ordered

/-- Each criterion on observations can be expressed. A filter on features that names "no feature"
has to name identifiers only. -/
structure ObservationFilter.Admissible (tables : Tables) (f : ObservationFilter) : Prop where
  dataStream : ∀ link ∈ f.dataStream, link.Admissible tables.dataStream
    DataStreamFilter.NamesOnly (DataStreamFilter.Admissible tables)
  foi : ∀ link ∈ f.foi, link.Admissible tables.featureOfInterest FeatureFilter.NamesOnly
    fun g => if noFeature ∈ g.internalIds then g.NamesOnly else g.Admissible
  phenomenonTime : ∀ time ∈ f.phenomenonTime, time.Ordered
  resultTime : ∀ time ∈ f.resultTime, time.Ordered

/-- Each criterion of a filter can be expressed. -/
def Filter.Admissible (tables : Tables) : Filter → Prop
  | observation f => f.Admissible tables
  | observationStatistics f => f.observations.Admissible tables
  | dataStream f => f.Admissible tables
  | featureOfInterest f => f.Admissible
  | system f => f.Admissible
  | commandStream f => f.Admissible tables
  | command f => f.Admissible tables

/-! ## Filters that only name identifiers -/

theorem SortedSet.isEmpty_iff {α : Type} [LT α] {s : SortedSet α} : s.isEmpty = true ↔ s = ∅ := by
  constructor
  · intro h
    exact SortedSet.ext (SortedSet.toList_of_isEmpty h)
  · rintro rfl
    rfl

theorem DataStreamFilter.idsOnly_iff {f : DataStreamFilter} :
    (∃ ids, idsOnly? f = some ids) ↔ f.NamesOnly := by
  obtain ⟨⟩ := f
  simp [idsOnly?, NamesOnly, SortedSet.isEmpty_iff, and_assoc]

theorem FeatureFilter.idsOnly_iff {f : FeatureFilter} :
    (∃ ids, idsOnly? f = some ids) ↔ f.NamesOnly := by
  obtain ⟨⟩ := f
  simp [idsOnly?, NamesOnly, SortedSet.isEmpty_iff, and_assoc]

theorem SystemFilter.idsOnly_iff {f : SystemFilter} :
    (∃ ids, idsOnly? f = some ids) ↔ f.NamesOnly := by
  obtain ⟨⟩ := f
  simp [idsOnly?, NamesOnly, and_assoc]

theorem FeatureFilter.idsOnly_isEmpty_iff {f : FeatureFilter} :
    (∃ ids, idsOnly? f = some ids ∧ ids.uniqueIds.isEmpty = true) ↔ f.NamesOnly := by
  rw [← idsOnly_iff]
  constructor
  · rintro ⟨ids, h, -⟩
    exact ⟨ids, h⟩
  · rintro ⟨ids, h⟩
    have hnames := h
    simp only [idsOnly?, Option.ite_none_right_eq_some, Bool.and_eq_true,
      Option.some.injEq] at hnames
    obtain ⟨⟨⟨⟨⟨⟨⟨huids, -⟩, -⟩, -⟩, -⟩, -⟩, -⟩, rfl⟩ := hnames
    exact ⟨_, h, huids⟩

theorem SystemFilter.idsOnly_isEmpty_iff {f : SystemFilter} :
    (∃ ids, idsOnly? f = some ids ∧ ids.uniqueIds.isEmpty = true) ↔
      f.NamesOnly ∧ f.uniqueIds = ∅ := by
  rw [← idsOnly_iff, ← SortedSet.isEmpty_iff]
  have hids : ∀ {ids}, idsOnly? f = some ids → ids.uniqueIds = f.uniqueIds := by
    intro ids h
    simp only [idsOnly?, Option.ite_none_right_eq_some, Option.some.injEq] at h
    rw [← h.2]
  constructor
  · rintro ⟨ids, h, hempty⟩
    exact ⟨⟨ids, h⟩, hids h ▸ hempty⟩
  · rintro ⟨⟨ids, h⟩, hempty⟩
    exact ⟨ids, h, (hids h).symm ▸ hempty⟩

theorem CommandStreamFilter.idsOnly_iff {f : CommandStreamFilter} :
    (∃ ids, idsOnly? f = some ids) ↔ f.NamesOnly := by
  obtain ⟨⟩ := f
  simp [idsOnly?, NamesOnly, SortedSet.isEmpty_iff, and_assoc]

/-! ## References -/

namespace Linked

variable {F : Type} [Linkable F] {link : Linked F} {namesOnly admissible : F → Prop}

/-- A contribution that follows a reference succeeds where the reference is admissible, if what it
contributes for a join succeeds where the filter is. -/
theorem succeeds_resolve {table? : Option String} {entity : Entity} {field : String}
    {c : Resolution F → Contribution}
    (hnames : ∀ {g : F}, (∃ ids, idsOnly? g = some ids) ↔ namesOnly g)
    (hjoin : ∀ table g, (c (.join table g)).Succeeds ↔ admissible g)
    (hflat : ∀ ids, (c (.flat ids)).Succeeds) :
    (Contribution.ofExcept c (link.resolve table? entity field)).Succeeds ↔
      link.Admissible table? namesOnly admissible := by
  rw [Contribution.succeeds_ofExcept]
  cases link with
  | ids ids => exact ⟨fun _ => trivial, fun _ => ⟨_, rfl, hflat _⟩⟩
  | filter g =>
    cases table? with
    | some table =>
      constructor
      · rintro ⟨_, h, hs⟩
        cases h
        exact (hjoin table g).mp hs
      · intro h
        exact ⟨_, rfl, (hjoin table g).mpr h⟩
    | none =>
      constructor
      · rintro ⟨resolution, h, -⟩
        cases resolution with
        | join table g' => cases (resolve_eq_join.mp h).2
        | flat ids =>
          obtain ⟨_, h, -⟩ | ⟨_, h, -, hids⟩ := resolve_eq_flat.mp h
          · cases h
          · cases h
            exact hnames.mp ⟨ids, hids⟩
      · intro h
        obtain ⟨ids, hids⟩ := hnames.mpr h
        exact ⟨_, resolve_eq_flat.mpr (.inr ⟨g, rfl, rfl, hids⟩), hflat ids⟩

end Linked

/-! ## Features and systems -/

open Contribution

variable {tables : Tables} {root table : String}

theorem TextFilter.hasKeyword_iff {search : TextFilter} :
    search.HasKeyword ↔ Condition.trimmedKeywords search ≠ [] := by
  rw [Condition.trimmedKeywords, ne_eq, List.filter_eq_nil_iff]
  simp [HasKeyword]

namespace FeatureRow

theorem succeeds_parentContribution {F : Type} [Linkable F] {namesOnly : F → Prop}
    (hnames : ∀ {g : F}, (∃ ids, idsOnly? g = some ids ∧ ids.uniqueIds.isEmpty = true) ↔
      namesOnly g) (e : Entity) (table : String) (link : Linked F) :
    (parentContribution e table link).Succeeds ↔ link.NamesParent namesOnly := by
  cases link with
  | ids ids => simp [parentContribution, Linked.NamesParent]
  | filter g =>
    rw [Linked.NamesParent, ← hnames]
    unfold parentContribution
    cases hg : idsOnly? g with
    | none => simp [hg]
    | some ids => by_cases hempty : ids.uniqueIds.isEmpty = true <;> simp [hg, hempty]

@[simp] theorem succeeds_uniqueIdContribution (uids : NameSet) :
    (uniqueIdContribution table uids).Succeeds := succeeds_condition? _

@[simp] theorem succeeds_locationContribution (place : SpatialFilter) :
    (locationContribution table place).Succeeds ↔ place.HasGeometry := by
  rw [locationContribution, succeeds_ofExcept]
  simp only [succeeds_condition, and_true]
  exact Condition.isPlaced_isOk (geometry table) place

@[simp] theorem succeeds_fullTextContribution (search : TextFilter) :
    (fullTextContribution table search).Succeeds ↔ search.HasKeyword := by
  rw [fullTextContribution, succeeds_ofExcept, TextFilter.hasKeyword_iff]
  simp only [succeeds_condition, and_true]
  exact Condition.mentions_isOk (List.cons_ne_nil _ _) search

@[simp] theorem succeeds_validTimeContribution (time : TimeFilter) :
    (validTimeContribution root table time).Succeeds ↔ time.Ordered :=
  time.succeeds_contribution root

end FeatureRow

theorem FeatureFilter.succeeds_contribution (f : FeatureFilter) :
    (f.contribution root table).Succeeds ↔ f.Admissible := by
  have hparent := FeatureRow.succeeds_parentContribution FeatureFilter.idsOnly_isEmpty_iff
    .featureOfInterest table
  rw [contribution, succeeds_all, admissible_iff]
  simp only [List.forall_mem_cons, List.not_mem_nil, false_imp_iff, implies_true, and_true,
    succeeds_ofOption, succeeds_unsupported, succeeds_condition?, true_and, hparent,
    FeatureRow.succeeds_uniqueIdContribution, FeatureRow.succeeds_locationContribution,
    FeatureRow.succeeds_fullTextContribution, FeatureRow.succeeds_validTimeContribution]

theorem SystemFilter.succeeds_contribution (f : SystemFilter) :
    (f.contribution root table).Succeeds ↔ f.Admissible := by
  have hparent := FeatureRow.succeeds_parentContribution SystemFilter.idsOnly_isEmpty_iff .system
    table
  rw [contribution, succeeds_all, admissible_iff]
  simp only [List.forall_mem_cons, List.not_mem_nil, false_imp_iff, implies_true, and_true,
    succeeds_ofOption, succeeds_unsupported, succeeds_condition?, true_and, hparent,
    FeatureRow.succeeds_uniqueIdContribution, FeatureRow.succeeds_locationContribution,
    FeatureRow.succeeds_fullTextContribution, FeatureRow.succeeds_validTimeContribution]

/-! ## Streams -/

namespace StreamRow

@[simp] theorem succeeds_systemContribution (link : Linked SystemFilter) :
    (systemContribution tables root table link).Succeeds ↔
      link.Admissible tables.system SystemFilter.NamesOnly SystemFilter.Admissible := by
  refine Linked.succeeds_resolve SystemFilter.idsOnly_iff (fun system g => ?_) fun ids => ?_
  · simpa using g.succeeds_contribution
  · simp

@[simp] theorem succeeds_fullTextContribution (search : TextFilter) :
    (fullTextContribution table search).Succeeds ↔ search.HasKeyword := by
  rw [fullTextContribution, succeeds_ofExcept, TextFilter.hasKeyword_iff]
  simp only [succeeds_condition, and_true]
  exact Condition.mentions_isOk (List.cons_ne_nil _ _) search

@[simp] theorem succeeds_validTimeContribution (time : TimeFilter) :
    (validTimeContribution root table time).Succeeds ↔ time.Ordered :=
  time.succeeds_contribution root

@[simp] theorem succeeds_nameContribution (member : String) (names : NameSet) :
    (nameContribution table member names).Succeeds := succeeds_condition? _

@[simp] theorem succeeds_propertyContribution (uris : NameSet) :
    (propertyContribution table uris).Succeeds := succeeds_condition? _

end StreamRow

open StreamRow in
theorem DataStreamFilter.succeeds_contribution (pin : Option Int64) (f : DataStreamFilter) :
    (f.contribution tables root table pin).Succeeds ↔ f.Admissible tables := by
  show (Contribution.all [_, _, _, _, _, _, _]).Succeeds ↔ _
  rw [succeeds_all]
  simp only [List.forall_mem_cons, List.not_mem_nil, false_imp_iff, implies_true, and_true,
    succeeds_ofOption, succeeds_unsupported, true_and, succeeds_systemContribution,
    succeeds_nameContribution, succeeds_propertyContribution,
    StreamRow.succeeds_fullTextContribution, StreamRow.succeeds_validTimeContribution]
  constructor
  · rintro ⟨hsystem, hobs, -, hsearch, htime⟩
    exact ⟨hsystem, hobs, hsearch, htime⟩
  · rintro ⟨hsystem, hobs, hsearch, htime⟩
    exact ⟨hsystem, hobs, by cases pin <;> simp, hsearch, htime⟩

/-! ## Commands -/

theorem CommandFilter.succeeds_ownContribution (f : CommandFilter) :
    (f.ownContribution root table).Succeeds ↔ ∀ time ∈ f.issueTime, time.Ordered := by
  simp [ownContribution]

theorem CommandFilter.succeeds_scopedContribution (f : CommandFilter) :
    (f.scopedContribution table).Succeeds ↔ f.ScopedAdmissible := by
  rw [scopedContribution, succeeds_append, succeeds_unsupported, succeeds_ownContribution,
    scopedAdmissible_iff]

@[simp] theorem StreamRow.succeeds_commandsContribution (f : CommandFilter) :
    (commandsContribution tables table f).Succeeds ↔
      tables.command.isSome ∧ f.ScopedAdmissible := by
  unfold commandsContribution
  cases htable : tables.table? .command with
  | none =>
    have hnone : tables.command = none := htable
    simp [hnone]
  | some commands =>
    have hsome : tables.command = some commands := htable
    have hscoped : (f.scopedContribution commands).Succeeds ↔ f.ScopedAdmissible :=
      f.succeeds_scopedContribution
    rw [hsome, ← hscoped]
    dsimp only
    cases he : (f.scopedContribution commands).error with
    | none => simp [Contribution.Succeeds, he, Contribution.condition, Contribution.clause]
    | some e => simp [Contribution.Succeeds, he, Contribution.fail]

open StreamRow in
theorem CommandStreamFilter.succeeds_contribution (f : CommandStreamFilter) :
    (f.contribution tables root table).Succeeds ↔ f.Admissible tables := by
  rw [contribution, succeeds_all, admissible_iff]
  simp only [List.forall_mem_cons, List.not_mem_nil, false_imp_iff, implies_true, and_true,
    succeeds_ofOption, succeeds_condition?, true_and, succeeds_systemContribution,
    succeeds_commandsContribution, succeeds_nameContribution, succeeds_propertyContribution,
    StreamRow.succeeds_fullTextContribution, StreamRow.succeeds_validTimeContribution]

theorem CommandFilter.succeeds_contribution (f : CommandFilter) :
    (f.contribution tables root table).Succeeds ↔ f.Admissible tables := by
  have hstream : ∀ link, (CommandRow.streamContribution tables root table link).Succeeds ↔
      link.Admissible tables.commandStream CommandStreamFilter.NamesOnly
        (CommandStreamFilter.Admissible tables) := by
    intro link
    refine Linked.succeeds_resolve CommandStreamFilter.idsOnly_iff (fun streams g => ?_)
      fun ids => ?_
    · simpa using g.succeeds_contribution
    · simp
  rw [contribution, succeeds_append, succeeds_ofOption, succeeds_ownContribution, admissible_iff]
  simp only [hstream]

/-! ## Observations -/

namespace ObservationRow

@[simp] theorem succeeds_dataStreamContribution (pin : Option Int64)
    (link : Option (Linked DataStreamFilter)) :
    (dataStreamContribution tables root table pin link).Succeeds ↔
      ∀ l ∈ link, l.Admissible tables.dataStream DataStreamFilter.NamesOnly
        (DataStreamFilter.Admissible tables) := by
  have hpinned : (dataStreamContribution.pinned table pin).Succeeds := succeeds_condition? _
  cases link with
  | none => simpa [dataStreamContribution] using hpinned
  | some link =>
    simp only [Option.mem_some_iff, forall_eq']
    refine Linked.succeeds_resolve DataStreamFilter.idsOnly_iff (fun streams g => ?_) fun ids => ?_
    · simpa using g.succeeds_contribution pin
    · simpa using hpinned

@[simp] theorem succeeds_foiIdContribution (ids : IdSet) :
    (foiIdContribution table ids).Succeeds := succeeds_condition? _

/-- The features are told apart by the phenomenon time only if it is admissible itself. -/
theorem succeeds_foiContribution {time : Option TimeFilter} (htime : ∀ t ∈ time, t.Ordered)
    (link : Linked FeatureFilter) :
    (foiContribution tables root table time link).Succeeds ↔
      link.Admissible tables.featureOfInterest FeatureFilter.NamesOnly
        fun g => if noFeature ∈ g.internalIds then g.NamesOnly else g.Admissible := by
  have hvalid : ∀ features, (Contribution.ofOption
      (FeatureRow.validTimeContribution root features)
      (time.filter fun t => !t.isLatest)).Succeeds := by
    intro features
    rw [succeeds_ofOption]
    intro t ht
    rw [FeatureRow.succeeds_validTimeContribution]
    exact htime t (Option.filter_eq_some_iff.mp ht).1
  refine Linked.succeeds_resolve FeatureFilter.idsOnly_iff (fun features g => ?_) fun ids => ?_
  · dsimp only
    by_cases hzero : noFeature ∈ g.internalIds
    · rw [if_pos hzero, if_pos hzero, ← FeatureFilter.idsOnly_iff]
      cases idsOnly? g with
      | none => simp
      | some ids => simp
    · rw [if_neg hzero, if_neg hzero]
      simpa [hvalid] using g.succeeds_contribution
  · simp

@[simp] theorem succeeds_timesContribution (phenomenonTime resultTime : Option TimeFilter) :
    (timesContribution root table phenomenonTime resultTime).Succeeds ↔
      (∀ time ∈ phenomenonTime, time.Ordered) ∧ ∀ time ∈ resultTime, time.Ordered := by
  rw [timesContribution, succeeds_append, succeeds_ofOption, succeeds_ofOption]
  simp only [TimeFilter.succeeds_contribution]

end ObservationRow

open ObservationRow

theorem ObservationFilter.admissible_iff (f : ObservationFilter) (root table : String) :
    f.Admissible tables ↔
    (dataStreamContribution tables root table none f.dataStream).Succeeds ∧
      (∀ link ∈ f.foi, (foiContribution tables root table f.phenomenonTime link).Succeeds) ∧
      (timesContribution root table f.phenomenonTime f.resultTime).Succeeds := by
  rw [succeeds_dataStreamContribution, succeeds_timesContribution]
  constructor
  · rintro ⟨hstream, hfoi, hphenomenon, hresult⟩
    exact ⟨hstream, fun link hlink => (succeeds_foiContribution hphenomenon link).mpr
      (hfoi link hlink), hphenomenon, hresult⟩
  · rintro ⟨hstream, hfoi, hphenomenon, hresult⟩
    exact ⟨hstream, fun link hlink => (succeeds_foiContribution hphenomenon link).mp
      (hfoi link hlink), hphenomenon, hresult⟩

theorem ObservationFilter.succeeds_contribution (f : ObservationFilter) :
    (f.contribution tables root table).Succeeds ↔ f.Admissible tables := by
  rw [f.admissible_iff root table]
  simp [contribution]

theorem StatisticsFilter.succeeds_contribution (f : StatisticsFilter) :
    (f.contribution tables root table).Succeeds ↔ f.observations.Admissible tables := by
  rw [f.observations.admissible_iff root table]
  simp [contribution]

/-! ## Filters of any entity -/

theorem Filter.succeeds_contribution :
    ∀ f : Filter, (f.contribution tables root table).Succeeds ↔ f.Admissible tables
  | observation f => f.succeeds_contribution
  | observationStatistics f => f.succeeds_contribution
  | dataStream f => f.succeeds_contribution none
  | featureOfInterest f => f.succeeds_contribution
  | system f => f.succeeds_contribution
  | commandStream f => f.succeeds_contribution
  | command f => f.succeeds_contribution

/-- **A filter has a query exactly when its table is configured, its limit is not greater than the
greatest signed 64-bit integer, and it is admissible.** -/
theorem compile_isOk_iff (tables : Tables) (f : Filter) : (∃ q, compile tables f = .ok q) ↔
    (tables.table? f.entity).isSome ∧ (∀ n ∈ f.limit, n.toNat ≤ Int64.maxValue.toNatClampNeg) ∧
      f.Admissible tables := by
  have hlimit : ∀ n : UInt64, n ≤ maxLimit ↔ n.toNat ≤ Int64.maxValue.toNatClampNeg :=
    fun n => UInt64.le_iff_toNat_le
  simp only [compile_eq_ok, Filter.succeeds_contribution, hlimit]
  constructor
  · rintro ⟨q, table, htable, hf, hn, -⟩
    exact ⟨by rw [htable]; rfl, hn, hf⟩
  · rintro ⟨htable, hn, hf⟩
    obtain ⟨table, htable⟩ := Option.isSome_iff_exists.mp htable
    exact ⟨_, table, htable, hf, hn, rfl⟩

end ObservationQuery
