import Mathlib.Data.List.Nodup
import Mathlib.Data.List.Pairwise
import ObservationQuery.Proofs.Compile.Filter
import ObservationQuery.Proofs.Compile.Share
import ObservationQuery.Proofs.Scope

/-!
# The joins of a compiled query

* `Join.firsts` — the first of some joins for each table.
* `Join.Follow` — the joined tables are those of some entities, in order.
* `Tables.Separate` — no two stored entities share a table.

Principal results: `shares_of_compile` — the conditions of a compiled query are those of the filter
itself and of the filters behind its joins; `joins_eq_firsts` — a compiled query has the first of
the joins of its filter for each table. It has all of them, and no table twice, exactly when these
tables and its own are different, as they are where no two entities share a table. Its conditions
are each on the table of the filter they belong to.
-/

namespace ObservationQuery

/-! ## The first join for each table -/

/-- The first of some joins for each table that has not been seen. -/
def Join.firstsFrom (seen : List String) : List Join → List Join
  | [] => []
  | j :: joins =>
    if j.table ∈ seen then Join.firstsFrom seen joins
    else j :: Join.firstsFrom (seen ++ [j.table]) joins

/-- The first of some joins for each table. -/
def Join.firsts (joins : List Join) : List Join := Join.firstsFrom [] joins

theorem Join.foldl_appendNew (joins : List Join) : ∀ l : List Join,
    joins.foldl (appendNew Join.table) l = l ++ Join.firstsFrom (l.map Join.table) joins := by
  induction joins with
  | nil => intro l; simp [firstsFrom]
  | cons j joins ih =>
    intro l
    rw [List.foldl_cons, ih, firstsFrom]
    unfold appendNew
    split
    · rfl
    · rw [List.map_append, List.append_assoc]
      rfl

/-! ## Tables of entities -/

/-- The joined tables are those of some of the entities, in their order. -/
def Join.Follow (tables : Tables) (es : List Entity) (joins : List Join) : Prop :=
  ∃ ds : List Entity, ds.Sublist es ∧ joins.map (fun j => some j.table) = ds.map tables.table?

/-- No two stored entities share a table. -/
def Tables.Separate (tables : Tables) : Prop :=
  ∀ d ∈ Entity.stored, ∀ e ∈ Entity.stored, ∀ table,
    tables.table? d = some table → tables.table? e = some table → d = e

/-- That is so exactly when the configured tables are pairwise different. -/
theorem Tables.separate_iff {tables : Tables} :
    tables.Separate ↔ (Entity.stored.filterMap tables.table?).Nodup := by
  rw [List.Nodup, List.pairwise_filterMap]
  constructor
  · intro h
    have hstored : Entity.stored.Nodup := by decide
    refine hstored.imp_of_mem fun hd he hne t ht u hu htu => ?_
    exact hne (h _ hd _ he t ht (htu ▸ hu))
  · intro h d hd e he t ht hu
    by_contra hne
    have hsymm : Std.Symm fun d e =>
        ∀ t, tables.table? d = some t → ∀ u, tables.table? e = some u → t ≠ u :=
      ⟨fun _ _ hde t ht u hu => (hde u hu t ht).symm⟩
    exact h.forall hd he hne t ht t hu rfl

instance (tables : Tables) : Decidable tables.Separate :=
  decidable_of_iff _ Tables.separate_iff.symm

namespace Join.Follow

variable {tables : Tables} {es ds : List Entity} {joins js : List Join}

theorem nil : Follow tables es [] := ⟨[], List.nil_sublist es, rfl⟩

theorem append (h : Follow tables es joins) (h' : Follow tables ds js) :
    Follow tables (es ++ ds) (joins ++ js) := by
  obtain ⟨l, hl, heq⟩ := h
  obtain ⟨l', hl', heq'⟩ := h'
  exact ⟨l ++ l', hl.append hl', by rw [List.map_append, List.map_append, heq, heq']⟩

theorem elim {α : Type} {o : Option α} {f : α → List Join} (h : ∀ a, Follow tables es (f a)) :
    Follow tables es (o.elim [] f) := by
  cases o with
  | none => exact nil
  | some a => exact h a

/-- A reference joins the table of its entity before those of the filter behind it. -/
theorem linked {F : Type} [Linkable F] {e : Entity} {field : String} {on : String → Predicate}
    {inner : String → F → List Join} (h : ∀ t g, Follow tables es (inner t g)) (link : Linked F) :
    Follow tables (e :: es) (link.joins tables e field on inner) := by
  unfold Linked.joins
  split
  · rename_i table g hres
    obtain ⟨ds, hds, heq⟩ := h table g
    refine ⟨e :: ds, hds.cons_cons e, ?_⟩
    rw [List.map_cons, List.map_cons, heq, (Linked.resolve_eq_join.mp hres).2]
  · exact nil

/-- Where no two entities share a table, different entities have different tables. -/
theorem nodup (hT : tables.Separate) {e : Entity} {table : String}
    (ht : tables.table? e = some table) (hstored : ∀ d ∈ e :: es, d ∈ Entity.stored)
    (hne : (e :: es).Nodup) (h : Follow tables es joins) :
    (table :: joins.map Join.table).Nodup := by
  obtain ⟨ds, hds, heq⟩ := h
  have hsub : (e :: ds).Sublist (e :: es) := hds.cons_cons e
  have hsome : (table :: joins.map Join.table).map some = (e :: ds).map tables.table? := by
    rw [List.map_cons, List.map_map, List.map_cons, ht]
    exact congrArg _ heq
  refine List.Nodup.of_map some ?_
  rw [hsome]
  refine List.Nodup.map_on (fun a ha b hb hab => ?_) (hne.sublist hsub)
  have hmem : tables.table? a ∈ (e :: ds).map tables.table? := List.mem_map_of_mem ha
  rw [← hsome] at hmem
  obtain ⟨t, -, hta⟩ := List.mem_map.mp hmem
  exact hT a (hstored a (hsub.subset ha)) b (hstored b (hsub.subset hb)) t hta.symm
    (hab ▸ hta.symm)

end Join.Follow

variable {tables : Tables} {table : String}

theorem StreamRow.follow_systemJoins (link : Linked SystemFilter) :
    Join.Follow tables [.system] (StreamRow.systemJoins tables table link) :=
  .linked (fun _ _ => .nil) link

theorem ObservationFilter.follow_joins (f : ObservationFilter) :
    Join.Follow tables [.dataStream, .system, .featureOfInterest] (f.joins tables table) := by
  have hstream : Join.Follow tables [.dataStream, .system]
      (f.dataStream.elim [] (ObservationRow.dataStreamJoins tables table)) :=
    .elim fun link => .linked (fun _ _ => .elim StreamRow.follow_systemJoins) link
  refine hstream.append (.elim fun link => ?_)
  unfold ObservationRow.foiJoins
  split
  · exact .nil
  · exact .linked (fun _ _ => .nil) link

theorem CommandFilter.follow_joins (f : CommandFilter) :
    Join.Follow tables [.commandStream, .system] (f.joins tables table) :=
  .elim fun link => .linked (fun _ _ => .elim StreamRow.follow_systemJoins) link

/-- Where no two entities share a table, a filter joins different tables, none of them its own. -/
theorem Filter.nodup_joins (hT : tables.Separate) (f : Filter)
    (ht : tables.table? f.entity = some table) :
    (table :: (f.joins tables table).map Join.table).Nodup := by
  cases f with
  | observation f =>
    have ht : tables.table? .observation = some table := ht
    exact f.follow_joins.nodup hT ht (by decide) (by decide)
  | observationStatistics f =>
    have ht : tables.table? .observation = some table := ht
    exact f.observations.follow_joins.nodup hT ht (by decide) (by decide)
  | dataStream f =>
    have ht : tables.table? .dataStream = some table := ht
    have h : Join.Follow tables [.system] (f.joins tables table) :=
      .elim StreamRow.follow_systemJoins
    exact h.nodup hT ht (by decide) (by decide)
  | featureOfInterest | system => exact List.nodup_singleton table
  | commandStream f =>
    have ht : tables.table? .commandStream = some table := ht
    have h : Join.Follow tables [.system] (f.joins tables table) :=
      .elim StreamRow.follow_systemJoins
    exact h.nodup hT ht (by decide) (by decide)
  | command f =>
    have ht : tables.table? .command = some table := ht
    exact f.follow_joins.nodup hT ht (by decide) (by decide)

/-! ## Compiled queries -/

/-- A compiled query has the conditions of the shares of its filter and no others. One is left out
only where another is written like it. -/
theorem shares_of_compile {f : Filter} {q : Query} (h : compile tables f = .ok q) :
    (∀ c ∈ q.conditions, ∃ s ∈ f.shares tables q.table, c ∈ s.conditions) ∧
      ∀ s ∈ f.shares tables q.table, ∀ c ∈ s.conditions,
        c.text ∈ q.conditions.map Condition.text := by
  obtain ⟨-, hs, -⟩ := contribution_of_compile h
  rw [conditions_of_compile h]
  constructor
  · intro c hc
    exact (Filter.mem_conditions_iff hs).mp ((mem_foldl_appendNew hc).resolve_left List.not_mem_nil)
  · intro s hshare c hc
    exact key_mem_foldl_appendNew ((Filter.mem_conditions_iff hs).mpr ⟨s, hshare, hc⟩)

/-- **A compiled query has the first of the joins of its filter for each table. It has all of them,
and no table twice, exactly when these tables and its own are different, as they are where no two
entities share a table. Its conditions are those of the shares of its filter, which are on its own
table and on those of the joins; where the tables have table names, the conditions of a share refer
to the table of this share and to no other.** -/
theorem joins_eq_firsts {f : Filter} {q : Query} (h : compile tables f = .ok q) :
    q.joins = Join.firsts (f.joins tables q.table) ∧ (q.joins.map Join.table).Nodup ∧
      (q.joins = f.joins tables q.table ∧ q.scope.Nodup ↔
        (q.table :: (f.joins tables q.table).map Join.table).Nodup) ∧
      (tables.Separate → (q.table :: (f.joins tables q.table).map Join.table).Nodup) ∧
      (f.shares tables q.table).map Share.table =
        q.table :: (f.joins tables q.table).map Join.table ∧
      (∀ c ∈ q.conditions, ∃ s ∈ f.shares tables q.table, c ∈ s.conditions) ∧
      (∀ s ∈ f.shares tables q.table, ∀ c ∈ s.conditions,
        c.text ∈ q.conditions.map Condition.text) ∧
      (tables.invalidEntry? = none → ∀ s ∈ f.shares tables q.table, ∀ c ∈ s.conditions,
        c.ReadsOnly [s.table]) := by
  have hjoins := joins_of_compile h
  obtain ⟨htable, hs, -⟩ := contribution_of_compile h
  obtain ⟨hshared, hkept⟩ := shares_of_compile h
  refine ⟨hjoins.trans (Join.foldl_appendNew _ []), ?_, ⟨?_, fun hne => ?_⟩, fun hT => ?_,
    f.map_table_shares, hshared, hkept, fun hT s hshare c hc => ?_⟩
  · rw [hjoins]
    exact nodup_foldl_appendNew List.nodup_nil
  · rintro ⟨hall, hne⟩
    rw [Query.scope, hall] at hne
    exact hne
  · have hall : q.joins = f.joins tables q.table := by
      rw [hjoins]
      exact foldl_appendNew_eq (List.nodup_cons.mp hne).2
    rw [Query.scope, hall]
    exact ⟨rfl, hne⟩
  · exact f.nodup_joins hT htable
  · have hread := Filter.reads_shares hT htable hs s hshare
    exact (hread.conditions c hc).readsOnly (List.forall_mem_singleton.mpr hread.table)

/-- Observations with their streams, the systems of these and their features: three joins, and a
condition for each on the table joined for it. -/
theorem joins_observations :
    let tables : Tables :=
      { observation := some "obs", dataStream := some "streams", system := some "systems",
        featureOfInterest := some "features" }
    let streams : DataStreamFilter :=
      { internalIds := .singleton 7, system := some (.filter { internalIds := .singleton 3 }) }
    let f : Filter := .observation
      { dataStream := some (.filter streams),
        foi := some (.filter { internalIds := .singleton 5 }) }
    tables.Separate ∧ tables.invalidEntry? = none ∧ ∃ q, compile tables f = .ok q ∧
      q.joins.map Join.table = ["streams", "systems", "features"] ∧
      (q.joins.map Join.table).Nodup ∧
      (f.shares tables q.table).map (fun s => (s.table, s.conditions.map Condition.text)) =
        [("obs", []), ("streams", ["streams.id = 7"]), ("systems", ["systems.id = 3"]),
          ("features", ["features.id = 5"])] ∧
      (f.shares tables q.table).map Share.table = q.scope ∧
      ∀ s ∈ f.shares tables q.table, ∀ c ∈ s.conditions, c.ReadsOnly [s.table] := by
  intro tables streams f
  have hS : tables.Separate := by decide
  have hT : tables.invalidEntry? = none := by decide
  obtain ⟨q, hq⟩ : ∃ q, compile tables f = .ok q := ⟨_, rfl⟩
  obtain ⟨-, hne, hall, hseparate, hshares, -, -, hread⟩ := joins_eq_firsts hq
  refine ⟨hS, hT, q, hq, ?_, hne, ?_, ?_, hread hT⟩
  · cases hq
    decide
  · cases hq
    decide
  · rw [hshares, Query.scope, (hall.mpr (hseparate hS)).1]

/-- Where systems and features share a table, the join with the features is missing. -/
theorem joins_shared_table :
    Tables.invalidEntry?
        { observation := some "obs", dataStream := some "streams", system := some "features",
          featureOfInterest := some "features" } = none ∧
    ∃ q, compile
        { observation := some "obs", dataStream := some "streams", system := some "features",
          featureOfInterest := some "features" }
        (.observation { dataStream := some (.filter { system := some (.filter {}) }),
                        foi := some (.filter {}) }) = .ok q ∧
      q.joins.map Join.table = ["streams", "features"] ∧
      q.joins ≠ Filter.joins
        { observation := some "obs", dataStream := some "streams", system := some "features",
          featureOfInterest := some "features" } q.table
        (.observation { dataStream := some (.filter { system := some (.filter {}) }),
                        foi := some (.filter {}) }) := by
  refine ⟨by decide, _, rfl, by decide, fun h => ?_⟩
  have hlength := congrArg List.length h
  revert hlength
  decide

end ObservationQuery
