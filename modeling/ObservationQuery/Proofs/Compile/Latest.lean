import ObservationQuery.Proofs.Compile.Order
import ObservationQuery.Proofs.Compile.Parts

/-!
# The latest values that filters ask for

* `Filter.latest` — the rows whose newest a filter itself asks for, in the order of dispatch, and
  `Filter.group` — the series in which they are.
* `Filter.linkedLatest` — the rows whose newest the filters behind its joins ask for.
* `Filter.commandConditions` — the conditions of these filters that a matching command exists.
* `Contribution.Shapes` — the clauses ask for the newest of some rows, and hold no other queries
  than some.

Principal results: each way to build a contribution has one lemma, as `Shapes.append`; each filter
has one, as `SystemFilter.shapes_contribution`; `Filter.shapes_contribution` — unless a criterion
fails, a filter of any entity asks for the rows of its own criteria after those behind its joins.
-/

namespace ObservationQuery

/-! ## What a filter asks for -/

/-- The rows, if the latest of them are wanted. -/
def TimedRows.ifLatest (rows : TimedRows) : TimeFilter → List TimedRows
  | .latest => [rows]
  | .range .. => []

/-- What the filter behind a reference asks for, if the reference is followed by a join. -/
def Linked.behind {F α : Type} [Linkable F] (tables : Tables) (entity : Entity) (field : String)
    (inner : String → F → List α) (link : Linked F) : List α :=
  match link.resolve (tables.table? entity) entity field with
  | .ok (.join table nested) => inner table nested
  | _ => []

/-- The rows of a filter on features. -/
def FeatureFilter.latest (table : String) (f : FeatureFilter) : List TimedRows :=
  f.validTime.elim [] (FeatureRow.versions table).ifLatest

/-- The rows of a filter on systems. -/
def SystemFilter.latest (table : String) (f : SystemFilter) : List TimedRows :=
  f.validTime.elim [] (FeatureRow.versions table).ifLatest

/-- The rows of the systems that some streams refer to. -/
def StreamRow.systemLatest (tables : Tables) : Linked SystemFilter → List TimedRows :=
  Linked.behind tables .system "system" SystemFilter.latest

/-- The rows of a filter on data streams. -/
def DataStreamFilter.latest (table : String) (f : DataStreamFilter) : List TimedRows :=
  f.validTime.elim [] (StreamRow.versions table).ifLatest

/-- The rows behind the joins of a filter on data streams. -/
def DataStreamFilter.linkedLatest (tables : Tables) (f : DataStreamFilter) : List TimedRows :=
  f.system.elim [] (StreamRow.systemLatest tables)

/-- The rows of a filter on command streams. -/
def CommandStreamFilter.latest (table : String) (f : CommandStreamFilter) : List TimedRows :=
  f.validTime.elim [] (StreamRow.versions table).ifLatest

/-- The rows behind the joins of a filter on command streams. -/
def CommandStreamFilter.linkedLatest (tables : Tables) (f : CommandStreamFilter) :
    List TimedRows :=
  f.system.elim [] (StreamRow.systemLatest tables)

/-- The condition that a stream has a matching command, where it can be expressed. -/
def StreamRow.commandConditions (tables : Tables) (table : String) (f : CommandFilter) :
    List Condition :=
  match tables.table? .command with
  | none => []
  | some commands =>
    if (f.scopedContribution commands).error = none then
      [.inQuery [StreamRow.id table] (f.matchingStreams commands)]
    else []

/-- The condition of a filter on command streams that a matching command exists. -/
def CommandStreamFilter.commandConditions (tables : Tables) (table : String)
    (f : CommandStreamFilter) : List Condition :=
  f.commands.elim [] (StreamRow.commandConditions tables table)

/-- The rows of a filter on commands. -/
def CommandFilter.latest (table : String) (f : CommandFilter) : List TimedRows :=
  f.issueTime.elim [] (CommandRow.issued table).ifLatest

/-- The rows behind the joins of a filter on commands. -/
def CommandFilter.linkedLatest (tables : Tables) (f : CommandFilter) : List TimedRows :=
  f.commandStream.elim [] (Linked.behind tables .commandStream "commandStream"
    fun streams filter => filter.linkedLatest tables ++ filter.latest streams)

/-- The condition on the streams of some commands that a matching command exists. -/
def CommandFilter.commandConditions (tables : Tables) (f : CommandFilter) : List Condition :=
  f.commandStream.elim [] (Linked.behind tables .commandStream "commandStream"
    fun streams filter => filter.commandConditions tables streams)

/-- The rows of a filter on observations. -/
def ObservationFilter.latest (table : String) (f : ObservationFilter) : List TimedRows :=
  f.phenomenonTime.elim [] (ObservationRow.timed table "phenomenonTime").ifLatest ++
    f.resultTime.elim [] (ObservationRow.timed table "resultTime").ifLatest

/-- The rows of the data streams that some observations refer to, and of what these refer to. -/
def ObservationRow.dataStreamLatest (tables : Tables) : Linked DataStreamFilter → List TimedRows :=
  Linked.behind tables .dataStream "dataStream"
    fun streams filter => filter.linkedLatest tables ++ filter.latest streams

/-- The rows of the features that some observations refer to. -/
def ObservationRow.foiLatest (tables : Tables) (link : Linked FeatureFilter) : List TimedRows :=
  if link.namesNoFeature then []
  else link.behind tables .featureOfInterest "foi" FeatureFilter.latest

/-- The rows behind the joins of a filter on observations. -/
def ObservationFilter.linkedLatest (tables : Tables) (f : ObservationFilter) : List TimedRows :=
  f.dataStream.elim [] (ObservationRow.dataStreamLatest tables) ++
    f.foi.elim [] (ObservationRow.foiLatest tables)

namespace Filter

/-- The rows in `table` whose newest the filter itself asks for, in the order of dispatch. -/
def latest (table : String) : Filter → List TimedRows
  | observation f => f.latest table
  | observationStatistics f => f.observations.latest table
  | dataStream f => f.latest table
  | featureOfInterest f => f.latest table
  | system f => f.latest table
  | commandStream f => f.latest table
  | command f => f.latest table

/-- The rows whose newest the filters behind the joins ask for. -/
def linkedLatest (tables : Tables) : Filter → List TimedRows
  | observation f => f.linkedLatest tables
  | observationStatistics f => f.observations.linkedLatest tables
  | dataStream f => f.linkedLatest tables
  | featureOfInterest _ => []
  | system _ => []
  | commandStream f => f.linkedLatest tables
  | command f => f.linkedLatest tables

/-- The conditions that a matching command exists. -/
def commandConditions (tables : Tables) (table : String) : Filter → List Condition
  | commandStream f => f.commandConditions tables table
  | command f => f.commandConditions tables
  | _ => []

/-- The expressions that tell the series of the rows in `table` apart: the data stream of an
observation, the name and the system of a stream, the identifier of a feature, the command stream of
a command. -/
def group (table : String) : Filter → List Expr
  | observation _ | observationStatistics _ => [ObservationRow.dataStreamId table]
  | dataStream _ | commandStream _ => [StreamRow.text table "name", StreamRow.systemId table]
  | featureOfInterest _ | system _ => [FeatureRow.id table]
  | command _ => [CommandRow.streamId table]

end Filter

/-! ## Contributions -/

/-- Whether a condition holds a query. -/
def Condition.isSelect : Condition → Bool
  | .anyOf .. => false
  | .inQuery .. => true

namespace Condition

variable {e : Expr} {c : Condition}

theorem isSelect_anyOf? {ps : List Predicate} : ∀ c ∈ anyOf? ps, c.isSelect = false := by
  intro c hc
  cases ps with
  | nil => cases hc
  | cons first others =>
    cases hc
    rfl

theorem isSelect_hasName {names : NameSet} : ∀ c ∈ hasName e names, c.isSelect = false := by
  intro c hc
  unfold hasName at hc
  split at hc
  · cases hc
  · cases hc
    rfl

theorem isSelect_hasProperty {uris : NameSet} :
    ∀ c ∈ hasProperty e uris, c.isSelect = false := by
  intro c hc
  unfold hasProperty at hc
  split at hc
  · cases hc
  · cases hc
    rfl

theorem isSelect_mentions {exprs : List Expr} {search : TextFilter}
    (h : mentions exprs search = .ok c) : c.isSelect = false :=
  isSelect_anyOf? c (mentions_eq_ok h).2

theorem isSelect_isPlaced {place : SpatialFilter} (h : isPlaced e place = .ok c) :
    c.isSelect = false := by
  rw [(isPlaced_eq_ok h).2]
  rfl

theorem isSelect_relates (target : TimeTarget) (first last : Instant) (relation : PeriodRelation) :
    (target.relates first last relation).isSelect = false := by
  cases target <;> rfl

end Condition

namespace Contribution

/-- Unless a criterion failed, the clauses ask for the newest of `rows`: of those in the table
`root` by the shape of the query, of the others by a condition on their key. Besides, they hold no
queries but those of `others`. -/
structure Shapes (root : String) (rows : List TimedRows) (others : List Condition)
    (c : Contribution) : Prop where
  distincts : c.Succeeds → c.clauses.flatMap Clause.distincts =
    (rows.filter (·.table = root)).flatMap TimedRows.group
  orderKeys : c.Succeeds → c.clauses.flatMap Clause.orderKeys =
    (rows.filter (·.table = root)).flatMap fun r => r.newest.orderKeys
  selects : c.Succeeds → ∀ d : Condition, d.isSelect → (.condition d ∈ c.clauses ↔
    (∃ r ∈ rows, r.table ≠ root ∧ d = r.newestCondition) ∨ d ∈ others)

namespace Shapes

variable {root : String} {rows rest : List TimedRows} {others more : List Condition}
  {a b c : Contribution} {l : List Contribution} {α : Type}

theorem empty : Shapes root [] [] {} := ⟨fun _ => rfl, fun _ => rfl, fun _ _ _ => by simp⟩

theorem fail (e : CompileError) : Shapes root rows others (fail e) :=
  ⟨fun h => absurd h (not_succeeds_fail e), fun h => absurd h (not_succeeds_fail e),
    fun h => absurd h (not_succeeds_fail e)⟩

/-- A condition without a query. -/
theorem condition {d : Condition} (h : d.isSelect = false) : Shapes root [] [] (condition d) := by
  refine ⟨fun _ => rfl, fun _ => rfl, fun _ e he => ?_⟩
  have hne : e ≠ d := by
    rintro rfl
    rw [h] at he
    cases he
  simpa [Contribution.condition, clause] using hne

/-- A condition with a query. -/
theorem select (d : Condition) : Shapes root [] [d] (Contribution.condition d) :=
  ⟨fun _ => rfl, fun _ => rfl, fun _ _ _ => by simp [Contribution.condition, clause]⟩

theorem condition? {d : Option Condition} (h : ∀ e ∈ d, e.isSelect = false) :
    Shapes root [] [] (condition? d) := by
  cases d with
  | none => exact empty
  | some d => exact condition (h d rfl)

theorem append (ha : a.Shapes root rows others) (hb : b.Shapes root rest more) :
    (a ++ b).Shapes root (rows ++ rest) (others ++ more) := by
  refine ⟨fun h => ?_, fun h => ?_, fun h d hd => ?_⟩
  · obtain ⟨hsa, hsb⟩ := succeeds_append.mp h
    rw [clauses_append hsa, List.flatMap_append, ha.distincts hsa, hb.distincts hsb,
      List.filter_append, List.flatMap_append]
  · obtain ⟨hsa, hsb⟩ := succeeds_append.mp h
    rw [clauses_append hsa, List.flatMap_append, ha.orderKeys hsa, hb.orderKeys hsb,
      List.filter_append, List.flatMap_append]
  · obtain ⟨hsa, hsb⟩ := succeeds_append.mp h
    rw [clauses_append hsa, List.mem_append, ha.selects hsa d hd, hb.selects hsb d hd,
      List.mem_append]
    simp only [List.mem_append, or_and_right, exists_or]
    exact or_or_or_comm

theorem cons (ha : a.Shapes root rows others) (hl : (Contribution.all l).Shapes root rest more) :
    (Contribution.all (a :: l)).Shapes root (rows ++ rest) (others ++ more) := append ha hl

/-- What asks for nothing does not count. -/
theorem skip (ha : a.Shapes root [] []) (hl : (Contribution.all l).Shapes root rest more) :
    (Contribution.all (a :: l)).Shapes root rest more := cons ha hl

theorem join (j : Join) (h : c.Shapes root rows others) :
    (clause (.join j) ++ c).Shapes root rows others := by
  have hj : (clause (.join j)).Shapes root [] [] :=
    ⟨fun _ => rfl, fun _ => rfl, fun _ _ _ => by simp [clause]⟩
  exact hj.append h

theorem ofOption {f : α → Contribution} {o : Option α} {rows : α → List TimedRows}
    {others : α → List Condition} (h : ∀ a ∈ o, (f a).Shapes root (rows a) (others a)) :
    (ofOption f o).Shapes root (o.elim [] rows) (o.elim [] others) := by
  cases o with
  | none => exact empty
  | some a => exact h a rfl

/-- A criterion that holds no other queries. -/
theorem ofOption_rows {f : α → Contribution} {o : Option α} {rows : α → List TimedRows}
    (h : ∀ a ∈ o, (f a).Shapes root (rows a) []) :
    (Contribution.ofOption f o).Shapes root (o.elim [] rows) [] := by
  cases o with
  | none => exact empty
  | some a => exact h a rfl

/-- A criterion that asks for no rows. -/
theorem ofOption_others {f : α → Contribution} {o : Option α} {others : α → List Condition}
    (h : ∀ a ∈ o, (f a).Shapes root [] (others a)) :
    (Contribution.ofOption f o).Shapes root [] (o.elim [] others) := by
  cases o with
  | none => exact empty
  | some a => exact h a rfl

/-- A criterion that asks for nothing. -/
theorem ofOption_nothing {f : α → Contribution} {o : Option α}
    (h : ∀ a ∈ o, (f a).Shapes root [] []) : (Contribution.ofOption f o).Shapes root [] [] := by
  cases o with
  | none => exact empty
  | some a => exact h a rfl

theorem unsupported (e : Entity) (field : String) (o : Option α) :
    (unsupported e field o).Shapes root [] [] := ofOption_nothing fun _ _ => fail _

theorem ofExcept {f : α → Contribution} {x : Except CompileError α}
    (h : ∀ a, x = .ok a → (f a).Shapes root rows others) :
    (ofExcept f x).Shapes root rows others := by
  cases x with
  | ok a => exact h a rfl
  | error e => exact fail e

end Shapes

end Contribution

open Contribution

variable {tables : Tables} {root table : String}

/-- A criterion asks for its rows if it is that for the latest. -/
theorem TimeFilter.shapes_contribution (rows : TimedRows) (time : TimeFilter) :
    (time.contribution root rows).Shapes root (rows.ifLatest time) [] := by
  refine .ofExcept fun criterion hcriterion => ?_
  obtain ⟨rfl, rfl⟩ | ⟨first, last, relation, rfl, -, rfl⟩ := resolve_eq_ok time hcriterion
  · rw [TimeCriterion.clausesIn, TimedRows.ifLatest]
    by_cases hroot : root = rows.table
    · rw [if_pos hroot]
      have hown : [rows].filter (·.table = root) = [rows] := by simp [hroot]
      refine ⟨fun _ => ?_, fun _ => ?_, fun _ d _ => ?_⟩
      · rw [hown, LatestRows.distincts_clauses, List.flatMap_singleton]
      · rw [hown, LatestRows.orderKeys_clauses, List.flatMap_singleton]
        rfl
      · simp [LatestRows.clauses, hroot]
    · rw [if_neg hroot]
      have hown : [rows].filter (·.table = root) = [] := by simp [Ne.symm hroot]
      refine ⟨fun _ => by rw [hown]; rfl, fun _ => by rw [hown]; rfl, fun _ d _ => ?_⟩
      simp [Ne.symm hroot, TimedRows.newestCondition, TimedRows.newest]
  · exact .condition (Condition.isSelect_relates _ _ _ _)

/-- A reference asks for what the filter behind its join does, or for nothing. -/
theorem Linked.shapes_resolve {F : Type} [Linkable F] {link : Linked F} {entity : Entity}
    {field : String} {c : Resolution F → Contribution} {rows : String → F → List TimedRows}
    {others : String → F → List Condition}
    (hjoin : ∀ table f, (c (.join table f)).Shapes root (rows table f) (others table f))
    (hflat : ∀ ids, (c (.flat ids)).Shapes root [] []) :
    (Contribution.ofExcept c (link.resolve (tables.table? entity) entity field)).Shapes root
      (link.behind tables entity field rows) (link.behind tables entity field others) := by
  refine .ofExcept fun resolution hres => ?_
  rw [Linked.behind, Linked.behind, hres]
  cases resolution with
  | join table filter => exact hjoin table filter
  | flat ids => exact hflat ids

theorem Linked.behind_nil {F α : Type} [Linkable F] (entity : Entity) (field : String)
    (link : Linked F) : link.behind tables entity field (fun _ _ => ([] : List α)) = [] := by
  unfold behind
  split <;> rfl

/-! ## Features and systems -/

namespace FeatureRow

theorem shapes_parentContribution {F : Type} [Linkable F] (e : Entity) (link : Linked F) :
    (parentContribution e table link).Shapes root [] [] := by
  have hids : ∀ ids,
      (Contribution.condition? (Condition.hasId (parentId table) ids)).Shapes root [] [] :=
    fun _ => .condition? Condition.isSelect_anyOf?
  cases link with
  | ids ids => exact hids ids
  | filter filter =>
    unfold parentContribution
    dsimp only
    split
    · split
      · exact hids _
      · exact .fail _
    · exact .fail _

theorem shapes_locationContribution (place : SpatialFilter) :
    (locationContribution table place).Shapes root [] [] :=
  .ofExcept fun _ hc => .condition (Condition.isSelect_isPlaced hc)

theorem shapes_fullTextContribution (search : TextFilter) :
    (fullTextContribution table search).Shapes root [] [] :=
  .ofExcept fun _ hc => .condition (Condition.isSelect_mentions hc)

end FeatureRow

open FeatureRow in
theorem FeatureFilter.shapes_contribution (f : FeatureFilter) :
    (f.contribution root table).Shapes root (f.latest table) [] := by
  have h : (f.contribution root table).Shapes root _ _ :=
    .skip (.ofOption_nothing fun _ _ => shapes_parentContribution _ _) <|
    .skip (.unsupported _ _ _) <|
    .skip (.unsupported _ _ _) <|
    .skip (.condition? Condition.isSelect_anyOf?) <|
    .skip (.condition? Condition.isSelect_anyOf?) <|
    .skip (.ofOption_nothing fun _ _ => shapes_locationContribution _) <|
    .skip (.ofOption_nothing fun _ _ => FeatureRow.shapes_fullTextContribution _) <|
    .cons (.ofOption_rows fun time _ => time.shapes_contribution (versions table)) .empty
  simpa [latest] using h

open FeatureRow in
theorem SystemFilter.shapes_contribution (f : SystemFilter) :
    (f.contribution root table).Shapes root (f.latest table) [] := by
  have h : (f.contribution root table).Shapes root _ _ :=
    .skip (.ofOption_nothing fun _ _ => shapes_parentContribution _ _) <|
    .skip (.unsupported _ _ _) <|
    .skip (.unsupported _ _ _) <|
    .skip (.condition? Condition.isSelect_anyOf?) <|
    .skip (.condition? Condition.isSelect_anyOf?) <|
    .skip (.ofOption_nothing fun _ _ => shapes_locationContribution _) <|
    .skip (.ofOption_nothing fun _ _ => FeatureRow.shapes_fullTextContribution _) <|
    .cons (.ofOption_rows fun time _ => time.shapes_contribution (versions table)) .empty
  simpa [latest] using h

/-! ## Streams -/

namespace StreamRow

theorem shapes_systemContribution (link : Linked SystemFilter) :
    (systemContribution tables root table link).Shapes root (systemLatest tables link) [] := by
  have h : (systemContribution tables root table link).Shapes root (systemLatest tables link)
      (link.behind tables .system "system" fun _ _ => []) := by
    refine Linked.shapes_resolve (fun system filter => ?_) fun ids => ?_
    · exact .join _ filter.shapes_contribution
    · exact .append (.condition? Condition.isSelect_anyOf?)
        (.condition? Condition.isSelect_anyOf?)
  rwa [Linked.behind_nil] at h

theorem shapes_fullTextContribution (search : TextFilter) :
    (fullTextContribution table search).Shapes root [] [] :=
  .ofExcept fun _ hc => .condition (Condition.isSelect_mentions hc)

theorem shapes_nameContribution (member : String) (names : NameSet) :
    (nameContribution table member names).Shapes root [] [] :=
  .condition? Condition.isSelect_hasName

theorem shapes_propertyContribution (uris : NameSet) :
    (propertyContribution table uris).Shapes root [] [] :=
  .condition? Condition.isSelect_hasProperty

theorem shapes_commandsContribution (f : CommandFilter) :
    (commandsContribution tables table f).Shapes root [] (commandConditions tables table f) := by
  unfold commandsContribution commandConditions
  cases tables.table? .command with
  | none => exact .fail _
  | some commands =>
    dsimp only
    cases (f.scopedContribution commands).error with
    | none => exact .select _
    | some e => exact .fail _

end StreamRow

open StreamRow in
theorem DataStreamFilter.shapes_contribution (pin : Option Int64) (f : DataStreamFilter) :
    (f.contribution tables root table pin).Shapes root (f.linkedLatest tables ++ f.latest table)
      [] := by
  have h : (f.contribution tables root table pin).Shapes root _ _ :=
    .cons (.ofOption_rows fun link _ => shapes_systemContribution link) <|
    .skip (.unsupported _ _ _) <|
    .skip (by
      cases pin with
      | none => exact .condition? Condition.isSelect_anyOf?
      | some stream => exact .condition rfl) <|
    .skip (.ofOption_nothing fun _ _ => StreamRow.shapes_fullTextContribution _) <|
    .skip (shapes_nameContribution _ _) <|
    .skip (shapes_propertyContribution _) <|
    .cons (.ofOption_rows fun time _ => time.shapes_contribution (versions table)) .empty
  simpa [linkedLatest, latest] using h

/-! ## Commands -/

theorem CommandFilter.shapes_ownContribution (f : CommandFilter) :
    (f.ownContribution root table).Shapes root (f.latest table) [] := by
  have h : (f.ownContribution root table).Shapes root _ _ :=
    .skip (.condition? Condition.isSelect_anyOf?) <|
    .skip (.condition? Condition.isSelect_hasName) <|
    .skip (.condition? Condition.isSelect_anyOf?) <|
    .cons (.ofOption_rows fun time _ => time.shapes_contribution (CommandRow.issued table)) .empty
  simpa [latest] using h

theorem CommandFilter.shapes_scopedContribution (f : CommandFilter) :
    (f.scopedContribution table).Shapes table (f.latest table) [] :=
  .append (.unsupported _ _ _) f.shapes_ownContribution

open StreamRow in
theorem CommandStreamFilter.shapes_contribution (f : CommandStreamFilter) :
    (f.contribution tables root table).Shapes root (f.linkedLatest tables ++ f.latest table)
      (f.commandConditions tables table) := by
  have h : (f.contribution tables root table).Shapes root _ _ :=
    .cons (.ofOption_rows fun link _ => shapes_systemContribution link) <|
    .cons (.ofOption_others fun commands _ => shapes_commandsContribution commands) <|
    .skip (.condition? Condition.isSelect_anyOf?) <|
    .skip (.ofOption_nothing fun _ _ => StreamRow.shapes_fullTextContribution _) <|
    .skip (shapes_nameContribution _ _) <|
    .skip (shapes_propertyContribution _) <|
    .cons (.ofOption_rows fun time _ => time.shapes_contribution (versions table)) .empty
  simpa [linkedLatest, latest, commandConditions] using h

theorem CommandFilter.shapes_contribution (f : CommandFilter) :
    (f.contribution tables root table).Shapes root (f.linkedLatest tables ++ f.latest table)
      (f.commandConditions tables) := by
  have hstream : ∀ link, (CommandRow.streamContribution tables root table link).Shapes root
      (link.behind tables .commandStream "commandStream"
        fun streams filter => filter.linkedLatest tables ++ filter.latest streams)
      (link.behind tables .commandStream "commandStream"
        fun streams filter => filter.commandConditions tables streams) := by
    intro link
    refine Linked.shapes_resolve (fun streams filter => ?_) fun ids => ?_
    · exact .join _ filter.shapes_contribution
    · exact .condition? Condition.isSelect_anyOf?
  have h : (f.contribution tables root table).Shapes root _ _ :=
    .append (.ofOption fun link _ => hstream link) f.shapes_ownContribution
  rw [List.append_nil] at h
  exact h

/-! ## Observations -/

namespace ObservationRow

theorem shapes_dataStreamContribution (pin : Option Int64)
    (link : Option (Linked DataStreamFilter)) :
    (dataStreamContribution tables root table pin link).Shapes root
      (link.elim [] (dataStreamLatest tables)) [] := by
  have hpinned : (dataStreamContribution.pinned table pin).Shapes root [] [] := by
    refine .condition? fun d hd => ?_
    obtain ⟨stream, -, rfl⟩ := Option.map_eq_some_iff.mp hd
    rfl
  cases link with
  | none => exact hpinned
  | some link =>
    have h : (dataStreamContribution tables root table pin (some link)).Shapes root
        (dataStreamLatest tables link) (link.behind tables .dataStream "dataStream"
          fun _ _ => []) := by
      refine Linked.shapes_resolve (fun streams filter => ?_) fun ids => ?_
      · exact .join _ (filter.shapes_contribution pin)
      · exact .append (.condition? Condition.isSelect_anyOf?) hpinned
    rwa [Linked.behind_nil] at h

theorem shapes_foiIdContribution (ids : IdSet) :
    (foiIdContribution table ids).Shapes root [] [] :=
  .condition? Condition.isSelect_anyOf?

theorem shapes_foiContribution (time : Option TimeFilter) (link : Linked FeatureFilter) :
    (foiContribution tables root table time link).Shapes root (foiLatest tables link) [] := by
  refine .ofExcept fun resolution hres => ?_
  rw [foiLatest, Linked.behind, hres]
  cases resolution with
  | join features filter =>
    obtain ⟨rfl, -⟩ := Linked.resolve_eq_join.mp hres
    by_cases hzero : noFeature ∈ filter.internalIds
    · rw [if_pos (by simpa [Linked.namesNoFeature] using hzero)]
      dsimp only
      rw [if_pos hzero]
      split
      · exact shapes_foiIdContribution _
      · exact .fail _
    · rw [if_neg (by simpa [Linked.namesNoFeature] using hzero)]
      dsimp only
      rw [if_neg hzero]
      have htime : (Contribution.ofOption (FeatureRow.validTimeContribution root features)
          (time.filter fun t => !t.isLatest)).Shapes root [] [] := by
        refine .ofOption_nothing fun t ht => ?_
        have hrange : (FeatureRow.versions features).ifLatest t = [] := by
          have hlatest := (Option.filter_eq_some_iff.mp ht).2
          cases t with
          | latest => cases hlatest
          | range => rfl
        have h : (FeatureRow.validTimeContribution root features t).Shapes root _ [] :=
          t.shapes_contribution (FeatureRow.versions features)
        rwa [hrange] at h
      have hfilter : (filter.contribution root features).Shapes root (filter.latest features) [] :=
        filter.shapes_contribution
      have hboth := hfilter.append htime
      rw [List.append_nil, List.append_nil] at hboth
      exact .join _ hboth
  | flat ids =>
    rw [ite_self]
    exact shapes_foiIdContribution _

theorem shapes_timesContribution (phenomenonTime resultTime : Option TimeFilter) :
    (timesContribution root table phenomenonTime resultTime).Shapes root
      (phenomenonTime.elim [] (timed table "phenomenonTime").ifLatest ++
        resultTime.elim [] (timed table "resultTime").ifLatest) [] :=
  .append (.ofOption_rows fun t _ => t.shapes_contribution (timed table "phenomenonTime"))
    (.ofOption_rows fun t _ => t.shapes_contribution (timed table "resultTime"))

end ObservationRow

open ObservationRow

theorem ObservationFilter.shapes_contribution (f : ObservationFilter) :
    (f.contribution tables root table).Shapes root (f.linkedLatest tables ++ f.latest table)
      [] := by
  have h : (f.contribution tables root table).Shapes root _ _ :=
    .cons (shapes_dataStreamContribution none f.dataStream) <|
    .cons (.ofOption_rows fun link _ => shapes_foiContribution f.phenomenonTime link) <|
    .cons (shapes_timesContribution _ _) .empty
  simpa [linkedLatest, latest] using h

theorem StatisticsFilter.shapes_contribution (f : StatisticsFilter) :
    (f.contribution tables root table).Shapes root
      (f.observations.linkedLatest tables ++ f.observations.latest table) [] := by
  have h : (f.contribution tables root table).Shapes root _ _ :=
    .cons (shapes_dataStreamContribution f.dataStreamId f.observations.dataStream) <|
    .cons (.ofOption_rows fun link _ =>
      shapes_foiContribution f.observations.phenomenonTime link) <|
    .skip (.ofOption_nothing fun _ _ => shapes_foiIdContribution _) <|
    .cons (shapes_timesContribution _ _) .empty
  simpa [ObservationFilter.linkedLatest, ObservationFilter.latest] using h

/-! ## Filters of any entity -/

/-- **Unless a criterion fails, a filter asks for the newest of the rows behind its joins, then of
its own, and holds no other queries than those of matching commands.** -/
theorem Filter.shapes_contribution :
    ∀ f : Filter, (f.contribution tables root table).Shapes root
      (f.linkedLatest tables ++ f.latest table) (f.commandConditions tables table)
  | observation f => f.shapes_contribution
  | observationStatistics f => f.shapes_contribution
  | dataStream f => f.shapes_contribution none
  | featureOfInterest f => f.shapes_contribution
  | system f => f.shapes_contribution
  | commandStream f => f.shapes_contribution
  | command f => f.shapes_contribution

end ObservationQuery
