import Mathlib.Data.List.Perm.Subperm
import ObservationQuery.Proofs.Compile.Latest
import ObservationQuery.Proofs.Compile.Series
import ObservationQuery.Proofs.Conjunction
import ObservationQuery.Proofs.Joins

/-!
# The latest values in a compiled query

Only the criteria of a filter on its own rows shape its query. A criterion behind a join becomes a
condition with a query of its own, which is shaped likewise.

* `Filter.series_latest` — the rows that a filter itself asks for are in the series of its entity.
* `TimedRows.Joined`, `Filter.joined_linkedLatest` — the rows behind its joins are versions, each in
  a joined table of its own.
* `Query.Flat`, `Query.Embeds.eq_or_mem` — the queries in the conditions hold no queries.

Principal result: `latest_of_compile` — a compiled query has one row for each series exactly when
its filter asks for the latest itself, each latest behind a join is one condition, and in the query
and each query that stands in it the order begins with the distinct expressions.
-/

namespace ObservationQuery

open Contribution TimedRows

/-! ## Rows -/

namespace TimedRows

variable {group : List Expr} {rows r : TimedRows}

theorem sublist_ifLatest (rows : TimedRows) (time : Option TimeFilter) :
    (time.elim [] rows.ifLatest).Sublist [rows] := by
  cases time with
  | none => exact List.nil_sublist _
  | some time =>
    cases time with
    | latest => exact List.Sublist.refl _
    | range => exact List.nil_sublist _

theorem eq_of_mem_ifLatest {time : Option TimeFilter} (h : r ∈ time.elim [] rows.ifLatest) :
    r = rows := List.mem_singleton.mp ((sublist_ifLatest rows time).subset h)

end TimedRows

/-! ## The rows of a filter -/

variable {tables : Tables} {table : String}

/-- The rows that a filter itself asks for are in the series of its entity. -/
theorem Filter.series_latest (f : Filter) : Series (f.group table) (f.latest table) := by
  cases f with
  | observation | observationStatistics =>
    exact (ObservationRow.series_timed table).sublist
      ((sublist_ifLatest _ _).append (sublist_ifLatest _ _))
  | dataStream | commandStream =>
    exact (StreamRow.series_versions table).sublist (sublist_ifLatest _ _)
  | featureOfInterest | system =>
    exact (FeatureRow.series_versions table).sublist (sublist_ifLatest _ _)
  | command => exact (CommandRow.series_issued table).sublist (sublist_ifLatest _ _)

/-- The rows that a filter itself asks for are in its table. -/
theorem Filter.table_of_mem_latest (f : Filter) : ∀ r ∈ f.latest table, r.table = table := by
  intro r hr
  cases f with
  | observation | observationStatistics =>
    rcases List.mem_append.mp hr with hr | hr
    · rw [eq_of_mem_ifLatest hr]
      rfl
    · rw [eq_of_mem_ifLatest hr]
      rfl
  | dataStream | commandStream | featureOfInterest | system | command =>
    rw [eq_of_mem_ifLatest hr]
    rfl

/-- The rows are versions, each in a joined table of its own. -/
structure TimedRows.Joined (joins : List Join) (rows : List TimedRows) : Prop where
  versions : ∀ r ∈ rows, r.AreVersions
  tables : (rows.map TimedRows.table).Subperm (joins.map Join.table)

namespace TimedRows.Joined

variable {joins more : List Join} {rows rest : List TimedRows}

theorem nil : Joined joins [] := ⟨List.forall_mem_nil _, List.nil_subperm⟩

theorem perm (h : Joined joins rows) (hperm : joins.Perm more) : Joined more rows :=
  ⟨h.versions, h.tables.trans (hperm.map Join.table).subperm⟩

theorem append (h : Joined joins rows) (h' : Joined more rest) :
    Joined (joins ++ more) (rows ++ rest) := by
  refine ⟨List.forall_mem_append.mpr ⟨h.versions, h'.versions⟩, ?_⟩
  rw [List.map_append, List.map_append]
  exact h.tables.append h'.tables

theorem elim {α : Type} {o : Option α} {rows : α → List TimedRows} {joins : α → List Join}
    (h : ∀ a, Joined (joins a) (rows a)) : Joined (o.elim [] joins) (o.elim [] rows) := by
  cases o with
  | none => exact nil
  | some a => exact h a

/-- The rows of a filter whose table is joined. -/
theorem own {timed : TimedRows} (h : timed.AreVersions) (on : Predicate)
    (time : Option TimeFilter) : Joined [⟨timed.table, on⟩] (time.elim [] timed.ifLatest) := by
  refine ⟨fun r hr => ?_, ((sublist_ifLatest timed time).map TimedRows.table).subperm⟩
  rw [eq_of_mem_ifLatest hr]
  exact h

/-- The rows behind a reference are in the tables that it joins. -/
theorem linked {F : Type} [Linkable F] {e : Entity} {field : String} {on : String → Predicate}
    {inner : String → F → List Join} {rows : String → F → List TimedRows}
    (h : ∀ t g, Joined (⟨t, on t⟩ :: inner t g) (rows t g)) (link : Linked F) :
    Joined (link.joins tables e field on inner) (link.behind tables e field rows) := by
  unfold Linked.joins Linked.behind
  cases link.resolve (tables.table? e) e field with
  | error => exact nil
  | ok resolution =>
    cases resolution with
    | join t g => exact h t g
    | flat => exact nil

/-- What a joined filter finds behind its own joins comes before its own rows. -/
theorem behind {timed : TimedRows} (h : Joined joins rows) (htimed : timed.AreVersions)
    (on : Predicate) (time : Option TimeFilter) :
    Joined (⟨timed.table, on⟩ :: joins) (rows ++ time.elim [] timed.ifLatest) :=
  (h.append (own htimed on time)).perm (List.perm_append_singleton _ joins)

end TimedRows.Joined

theorem StreamRow.joined_systemLatest (link : Linked SystemFilter) :
    Joined (StreamRow.systemJoins tables table link) (StreamRow.systemLatest tables link) :=
  .linked (fun system _ => .own (.features system rfl) _ _) link

theorem ObservationFilter.joined_linkedLatest (f : ObservationFilter) :
    Joined (f.joins tables table) (f.linkedLatest tables) := by
  refine .append (.elim fun link => .linked (fun streams filter => ?_) link) (.elim fun link => ?_)
  · exact .behind (.elim StreamRow.joined_systemLatest) (.streams streams rfl) _ _
  · unfold ObservationRow.foiJoins ObservationRow.foiLatest
    split
    · exact .nil
    · exact .linked (fun features _ => .own (.features features rfl) _ _) link

theorem CommandFilter.joined_linkedLatest (f : CommandFilter) :
    Joined (f.joins tables table) (f.linkedLatest tables) := by
  refine .elim fun link => .linked (fun streams filter => ?_) link
  exact .behind (.elim StreamRow.joined_systemLatest) (.streams streams rfl) _ _

/-- The rows behind the joins of a filter are versions, each in a joined table of its own. -/
theorem Filter.joined_linkedLatest (table : String) (f : Filter) :
    Joined (f.joins tables table) (f.linkedLatest tables) := by
  cases f with
  | observation f => exact f.joined_linkedLatest
  | observationStatistics f => exact f.observations.joined_linkedLatest
  | dataStream | commandStream => exact .elim StreamRow.joined_systemLatest
  | featureOfInterest | system => exact .nil
  | command f => exact f.joined_linkedLatest

/-! ## Queries of contributions -/

namespace Contribution.Shapes

variable {c : Contribution} {root : String} {linked own : List TimedRows} {others : List Condition}
  {group : List Expr} {q : Query}

/-- The rows in the table of a query shape it, the rows in other tables do not. -/
theorem shape_include (h : c.Shapes root (linked ++ own) others) (hs : c.Succeeds)
    (hlinked : ∀ r ∈ linked, r.table ≠ root) (hown : ∀ r ∈ own, r.table = root)
    (hseries : Series group own) (hd : q.distinct = []) (ho : q.orderBy = []) :
    Shape group own (q.include c) := by
  have hfilter : (linked ++ own).filter (·.table = root) = own := by
    have hnone : linked.filter (·.table = root) = [] :=
      List.filter_eq_nil_iff.mpr fun r hr hr' => hlinked r hr (of_decide_eq_true hr')
    have hall : own.filter (·.table = root) = own :=
      List.filter_eq_self.mpr fun r hr => decide_eq_true (hown r hr)
    rw [List.filter_append, hnone, hall, List.nil_append]
  have hdistincts := h.distincts hs
  have hkeys := h.orderKeys hs
  rw [hfilter] at hdistincts hkeys
  exact hseries.shape_addAll hd ho hdistincts hkeys

/-- The rows in other tables are conditions, the rows in the table of the query are not. -/
theorem condition_mem_iff (h : c.Shapes root (linked ++ own) others) (hs : c.Succeeds)
    (hlinked : ∀ r ∈ linked, r.table ≠ root) (hown : ∀ r ∈ own, r.table = root) {d : Condition}
    (hd : d.isSelect) : .condition d ∈ c.clauses ↔
      (∃ r ∈ linked, d = r.newestCondition) ∨ d ∈ others := by
  rw [h.selects hs d hd]
  refine or_congr_left ⟨?_, ?_⟩
  · rintro ⟨r, hr, hne, rfl⟩
    exact ⟨r, (List.mem_append.mp hr).resolve_right fun hr => hne (hown r hr), rfl⟩
  · rintro ⟨r, hr, rfl⟩
    exact ⟨r, List.mem_append_left _ hr, hlinked r hr, rfl⟩

end Contribution.Shapes

/-! ## Queries in conditions -/

namespace Query

/-- No condition of the query holds a query. -/
def Flat (q : Query) : Prop := ∀ c ∈ q.conditions, c.isSelect = false

/-- Where the queries in the conditions are flat, no other queries stand in a query. -/
theorem Embeds.eq_or_mem {q r : Query} (h : q.Embeds r)
    (hflat : ∀ key s, .inQuery key s ∈ q.conditions → s.Flat) :
    r = q ∨ ∃ key, .inQuery key r ∈ q.conditions := by
  induction h with
  | refl => exact .inl rfl
  | condition h hc ih =>
    rcases ih with rfl | ⟨key, hr⟩
    · exact .inr ⟨_, hc⟩
    · cases hflat key _ hr _ hc

end Query

/-- The query of the streams with a matching command has the shape of the newest commands, where
these are wanted. -/
theorem CommandFilter.shape_matchingStreams {f : CommandFilter}
    (h : (f.scopedContribution table).Succeeds) :
    Shape [CommandRow.streamId table] (f.latest table) (f.matchingStreams table) := by
  have hshapes : (f.scopedContribution table).Shapes table ([] ++ f.latest table) [] :=
    f.shapes_scopedContribution
  exact hshapes.shape_include h (List.forall_mem_nil _) (Filter.command f).table_of_mem_latest
    (Filter.command f).series_latest rfl rfl

/-- The query of the streams with a matching command is headed, and no query stands in it. -/
theorem CommandFilter.matchingStreams_shape {f : CommandFilter}
    (h : (f.scopedContribution table).Succeeds) :
    (f.matchingStreams table).Headed ∧ (f.matchingStreams table).Flat := by
  refine ⟨(shape_matchingStreams h).headed (List.cons_ne_nil _ _), fun c hc => ?_⟩
  have hshapes : (f.scopedContribution table).Shapes table ([] ++ f.latest table) [] :=
    f.shapes_scopedContribution
  have hown : ∀ r ∈ f.latest table, r.table = table := (Filter.command f).table_of_mem_latest
  by_contra hselect
  rw [Bool.not_eq_false] at hselect
  rcases Query.mem_conditions_addAll _ _ hc with hnil | hc
  · cases hnil
  · simpa using (hshapes.condition_mem_iff h (List.forall_mem_nil _) hown hselect).mp hc

theorem StreamRow.shape_of_mem_commandConditions {f : CommandFilter} {key : List Expr} {s : Query}
    (h : .inQuery key s ∈ StreamRow.commandConditions tables table f) : s.Headed ∧ s.Flat := by
  unfold commandConditions at h
  split at h
  · cases h
  · split at h
    · rename_i hs
      cases List.mem_singleton.mp h
      exact CommandFilter.matchingStreams_shape hs
    · cases h

theorem Filter.shape_of_mem_commandConditions {f : Filter} {key : List Expr} {s : Query}
    (h : .inQuery key s ∈ f.commandConditions tables table) : s.Headed ∧ s.Flat := by
  have hstreams : ∀ {streams : String} {f : CommandStreamFilter},
      .inQuery key s ∈ f.commandConditions tables streams → s.Headed ∧ s.Flat := by
    intro streams f h
    unfold CommandStreamFilter.commandConditions at h
    cases hcommands : f.commands with
    | none =>
      rw [hcommands] at h
      cases h
    | some commands =>
      rw [hcommands] at h
      exact StreamRow.shape_of_mem_commandConditions h
  cases f with
  | commandStream f => exact hstreams h
  | command f =>
    cases hlink : f.commandStream with
    | none =>
      simp [commandConditions, CommandFilter.commandConditions, hlink] at h
    | some link =>
      simp only [commandConditions, CommandFilter.commandConditions, hlink, Option.elim_some,
        Linked.behind] at h
      split at h
      · exact hstreams h
      · cases h
  | observation | observationStatistics | dataStream | featureOfInterest | system => cases h

/-! ## Compiled queries -/

namespace Filter

variable {f : Filter}

/-- Where no two entities share a table, no rows behind a join are in the table of the filter. -/
theorem table_ne_of_mem_linkedLatest (hT : tables.Separate)
    (ht : tables.table? f.entity = some table) : ∀ r ∈ f.linkedLatest tables, r.table ≠ table := by
  rintro r hr rfl
  have hjoined := (f.joined_linkedLatest r.table).tables.subset (List.mem_map_of_mem hr)
  exact (List.nodup_cons.mp (f.nodup_joins hT ht)).1 hjoined

/-- Where no two entities share a table, the conditions on the rows behind the joins are written
differently. -/
theorem nodup_newestConditions (hT : tables.Separate) (ht : tables.table? f.entity = some table) :
    ((f.linkedLatest tables).map fun r => r.newestCondition.text).Nodup := by
  have hjoined : Joined (f.joins tables table) (f.linkedLatest tables) :=
    f.joined_linkedLatest table
  have htables : ((f.linkedLatest tables).map TimedRows.table).Nodup := by
    obtain ⟨l, hperm, hsub⟩ := hjoined.tables
    exact hperm.nodup ((List.nodup_cons.mp (f.nodup_joins hT ht)).2.sublist hsub)
  refine List.Nodup.map_on (fun r hr s hs h => ?_) (List.Nodup.of_map _ htables)
  refine List.inj_on_of_nodup_map htables hr hs ?_
  exact (hjoined.versions r hr).table_eq (hjoined.versions s hs) h

theorem shape_include (hT : tables.Separate) (ht : tables.table? f.entity = some table)
    (hs : (f.contribution tables table table).Succeeds) :
    Shape (f.group table) (f.latest table)
      ((Query.ofTable table).include (f.contribution tables table table)) :=
  f.shapes_contribution.shape_include hs (table_ne_of_mem_linkedLatest hT ht)
    f.table_of_mem_latest f.series_latest rfl rfl

theorem condition_mem_iff (hT : tables.Separate) (ht : tables.table? f.entity = some table)
    (hs : (f.contribution tables table table).Succeeds) {c : Condition} (hc : c.isSelect) :
    .condition c ∈ (f.contribution tables table table).clauses ↔
      (∃ r ∈ f.linkedLatest tables, c = r.newestCondition) ∨
        c ∈ f.commandConditions tables table :=
  f.shapes_contribution.condition_mem_iff hs (table_ne_of_mem_linkedLatest hT ht)
    f.table_of_mem_latest hc

theorem select_of_mem_include (hT : tables.Separate) (ht : tables.table? f.entity = some table)
    (hs : (f.contribution tables table table).Succeeds) {c : Condition} (hselect : c.isSelect)
    (hc : c ∈ ((Query.ofTable table).include (f.contribution tables table table)).conditions) :
    (∃ r ∈ f.linkedLatest tables, c = r.newestCondition) ∨
      c ∈ f.commandConditions tables table := by
  rcases Query.mem_conditions_addAll _ _ hc with hnil | hc
  · cases hnil
  · exact (condition_mem_iff hT ht hs hselect).mp hc

theorem headed_of_mem_include (hT : tables.Separate) (ht : tables.table? f.entity = some table)
    (hs : (f.contribution tables table table).Succeeds) {key : List Expr} {s : Query}
    (hc : .inQuery key s ∈
      ((Query.ofTable table).include (f.contribution tables table table)).conditions) :
    s.Headed ∧ s.Flat := by
  rcases select_of_mem_include hT ht hs rfl hc with ⟨r, hr, heq⟩ | hcommand
  · cases heq
    refine ⟨headed_keyQuery ((f.joined_linkedLatest table).versions r hr).series, fun c hc => ?_⟩
    rw [LatestRows.conditions_keyQuery] at hc
    cases hc
  · exact shape_of_mem_commandConditions hcommand

end Filter

/-- **Only the criteria of a filter on its own rows shape its query. Where it asks for the latest
itself, there is one row for each series, and the query is ordered by these series, then by each
time, the greatest first; else there is no shape. Each latest behind a join is one condition: the
key is one that a query over the joined table selects, which has one row for each series, the
newest. No other condition holds a query but that of a matching command. In the query and in each
query that stands in it, the order begins with the distinct expressions, and a time follows.** -/
theorem latest_of_compile {f : Filter} {q : Query} (hT : tables.Separate)
    (h : compile tables f = .ok q) :
    q.distinct = (if f.latest q.table = [] then [] else f.group q.table) ∧
      q.orderBy = (if f.latest q.table = [] then []
        else (f.group q.table).map .plain ++
          (f.latest q.table).map fun r => .latest r.target.newest) ∧
      ((f.linkedLatest tables).map fun r => r.newestCondition.text).Nodup ∧
      (∀ r ∈ f.linkedLatest tables, r.table ∈ q.joins.map Join.table ∧
        (q.conditions.map Condition.text).count r.newestCondition.text = 1 ∧
        r.newestCondition = .inQuery r.key
          { table := r.table, select := r.key, distinct := r.group,
            orderBy := r.group.map .plain ++ [.latest r.target.newest] }) ∧
      (∀ c ∈ q.conditions, c.isSelect → (∃ r ∈ f.linkedLatest tables, c = r.newestCondition) ∨
        c ∈ f.commandConditions tables q.table) ∧
      ∀ r, q.Embeds r → r.Headed := by
  have hjoins := joins_of_compile h
  obtain ⟨table, ht, hs, -, rfl⟩ := compile_eq_ok.mp h
  have htable : ((Query.ofTable table).include (f.contribution tables table table)).table = table :=
    Query.table_addAll _ _
  have hshape := Filter.shape_include hT ht hs
  dsimp only at hjoins ⊢
  rw [htable] at hjoins ⊢
  refine ⟨hshape.distinct, ?_, Filter.nodup_newestConditions hT ht, fun r hr => ⟨?_, ?_, ?_⟩,
    fun c hc hselect => Filter.select_of_mem_include hT ht hs hselect hc, fun r hr => ?_⟩
  · rw [hshape.orderBy, List.map_map]
    rfl
  · obtain ⟨j, hj, hjr⟩ := List.mem_map.mp
      ((f.joined_linkedLatest table).tables.subset (List.mem_map_of_mem hr))
    rw [hjoins, ← hjr]
    exact key_mem_foldl_appendNew hj
  · refine List.count_eq_one_of_mem ?_ ?_
    · rw [Query.include, Query.conditions_addAll]
      exact nodup_foldl_appendNew List.nodup_nil
    · exact Query.text_mem_conditions_addAll _ _
        ((Filter.condition_mem_iff hT ht hs rfl).mpr (.inl ⟨r, hr, rfl⟩))
  · have hversions := (f.joined_linkedLatest table).versions r hr
    exact newestCondition_eq hversions.series hversions.nodup_key
  · rcases hr.eq_or_mem fun key s hc => (Filter.headed_of_mem_include hT ht hs hc).2 with
      rfl | ⟨key, hmem⟩
    · obtain ⟨times, horder, hiff⟩ := hshape.headed f.series_latest.group_ne_nil
      exact ⟨times, horder, hiff⟩
    · exact (Filter.headed_of_mem_include hT ht hs hmem).1

/-- The newest observations of the newest versions of streams and systems. -/
theorem latest_observations :
    let tables : Tables :=
      { observation := some "obs", dataStream := some "streams", system := some "systems" }
    let f : Filter := .observation
      { dataStream := some (.filter
          { system := some (.filter { validTime := some .latest }), validTime := some .latest }),
        phenomenonTime := some .latest, resultTime := some .latest }
    tables.Separate ∧ ∃ q, compile tables f = .ok q ∧
      q.distinct = [.column "obs" "datastreamid"] ∧
      q.orderBy = [.plain (.column "obs" "datastreamid"), .latest (.column "obs" "phenomenonTime"),
        .latest (.column "obs" "resultTime")] ∧
      (f.linkedLatest tables).map TimedRows.table = ["systems", "streams"] ∧
      (∀ r ∈ f.linkedLatest tables,
        (q.conditions.map Condition.text).count r.newestCondition.text = 1) ∧
      ∀ r, q.Embeds r → r.Headed := by
  intro tables f
  have hT : tables.Separate := by decide
  have hq : ∃ q, compile tables f = .ok q := ⟨_, rfl⟩
  refine ⟨hT, hq.imp fun q h => ?_⟩
  obtain ⟨hdistinct, horder, -, hlinked, -, hheaded⟩ := latest_of_compile hT h
  refine ⟨h, ?_, ?_, rfl, fun r hr => (hlinked r hr).2.1, hheaded⟩
  · rw [hdistinct]
    cases h
    rfl
  · rw [horder]
    cases h
    rfl

end ObservationQuery
