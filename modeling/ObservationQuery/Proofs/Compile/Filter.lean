import ObservationQuery.Proofs.Compile.Parts
import ObservationQuery.Proofs.Compile.Scope
import ObservationQuery.Proofs.Sql.Wording

/-!
# Compiled queries

Principal results: `compile_eq_ok`, `compile_eq_error` — when a filter has a query, and which, and
why it has none; `contribution_of_compile` — it collects what its filter contributes;
`compile_scoped` — it reads the tables it names; `joins_of_compile` — it collects the joins of its
filter; `exists_clauses_of_compile` — it collects conditions that hold the texts of its filter.
-/

namespace ObservationQuery

open Sql

variable {tables : Tables} {f : Filter} {q : Query}

theorem Tables.require_eq_ok {e : Entity} {table : String} :
    tables.require e = .ok table ↔ tables.table? e = some table := by
  unfold require
  split
  · rename_i t ht
    rw [ht, Except.ok.injEq, Option.some.injEq]
  · rename_i hnone
    simp [hnone]

theorem Filter.queryOver_eq_ok {table : String} : f.queryOver tables table = .ok q ↔
    (f.contribution tables table table).Succeeds ∧
      q = (Query.ofTable table).include (f.contribution tables table table) := by
  simp only [queryOver, Contribution.Succeeds]
  split
  · rename_i hnone
    simp [hnone, eq_comm]
  · rename_i e he
    simp [he]

theorem Query.limitTo_eq_ok {p : Query} {limit : Option UInt64} (hp : p.limit = none) :
    p.limitTo limit = .ok q ↔ (∀ n ∈ limit, n ≤ maxLimit) ∧ q = { p with limit := limit } := by
  cases limit with
  | none =>
    obtain ⟨⟩ := p
    cases hp
    simp [limitTo, eq_comm]
  | some n =>
    rw [limitTo]
    split
    · rename_i hn
      simp [hn, setLimit, eq_comm]
    · rename_i hn
      simp [hn]

/-- **A filter has a query exactly when its table is configured, each of its criteria can be
expressed and its limit is not too great. The query collects what the filter contributes.** -/
theorem compile_eq_ok : compile tables f = .ok q ↔ ∃ table, tables.table? f.entity = some table ∧
    (f.contribution tables table table).Succeeds ∧ (∀ n ∈ f.limit, n ≤ maxLimit) ∧
      q = { (Query.ofTable table).include (f.contribution tables table table) with
        limit := f.limit } := by
  have hbind : compile tables f = .ok q ↔ ∃ table p, tables.require f.entity = .ok table ∧
      f.queryOver tables table = .ok p ∧ p.limitTo f.limit = .ok q := by
    unfold compile
    cases tables.require f.entity with
    | error e => simp [bind, Except.bind]
    | ok table =>
      cases hq : f.queryOver tables table with
      | error e => simp [bind, Except.bind, hq]
      | ok p => simp [bind, Except.bind, hq]
  rw [hbind]
  constructor
  · rintro ⟨table, p, htable, hp, hq⟩
    obtain ⟨hs, rfl⟩ := Filter.queryOver_eq_ok.mp hp
    obtain ⟨hlimit, hq⟩ := (Query.limitTo_eq_ok (Query.limit_addAll _ _)).mp hq
    exact ⟨table, Tables.require_eq_ok.mp htable, hs, hlimit, hq⟩
  · rintro ⟨table, htable, hs, hlimit, hq⟩
    refine ⟨table, _, Tables.require_eq_ok.mpr htable, Filter.queryOver_eq_ok.mpr ⟨hs, rfl⟩, ?_⟩
    exact (Query.limitTo_eq_ok (Query.limit_addAll _ _)).mpr ⟨hlimit, hq⟩

/-- A filter has no query where its table is not configured, a criterion cannot be expressed or its
limit is too great; of these the first is the reason. -/
theorem compile_eq_error {e : CompileError} : compile tables f = .error e ↔
    (tables.table? f.entity = none ∧ e = .missingTable f.entity.source) ∨
      ∃ table, tables.table? f.entity = some table ∧
        ((f.contribution tables table table).error = some e ∨
          (f.contribution tables table table).Succeeds ∧
            ∃ n ∈ f.limit, maxLimit < n ∧ e = .invalidFilter (.limitTooGreat n)) := by
  unfold compile Tables.require
  cases ht : tables.table? f.entity with
  | none => simp [bind, Except.bind, eq_comm]
  | some table =>
    simp only [bind, Except.bind, Filter.queryOver, Contribution.Succeeds]
    cases hc : (f.contribution tables table table).error with
    | some e' => simp [hc]
    | none =>
      cases f.limit with
      | none => simp [hc, Query.limitTo]
      | some n =>
        by_cases hn : n ≤ maxLimit
        · simp [hc, Query.limitTo, hn, UInt64.not_lt.mpr hn]
        · simp [hc, Query.limitTo, hn, UInt64.not_le.mp hn, eq_comm]

/-- **A compiled query reads the tables it names, and they have table names.** -/
theorem compile_scoped (hT : tables.invalidEntry? = none) (h : compile tables f = .ok q) :
    q.Scoped := by
  obtain ⟨table, htable, -, -, rfl⟩ := compile_eq_ok.mp h
  have ht := Tables.isTableName_of_table? hT htable
  have hread : ((Query.ofTable table).include (f.contribution tables table table)).Reading := by
    refine (Query.Reading.ofTable ht).addAll (List.Subset.refl _) ?_
    exact f.reads_contribution hT ht (List.mem_singleton_self table)
  refine (Query.scoped_iff _).mpr ?_
  exact ⟨hread.table, hread.joins, hread.select, hread.distinct, hread.conditions, hread.orderBy⟩

/-- A compiled query is over the table of its filter, and collects what the filter contributes to a
query over that table. -/
theorem contribution_of_compile (h : compile tables f = .ok q) :
    tables.table? f.entity = some q.table ∧ (f.contribution tables q.table q.table).Succeeds ∧
      q = { (Query.ofTable q.table).include (f.contribution tables q.table q.table) with
        limit := f.limit } := by
  obtain ⟨table, htable, hs, -, hq⟩ := compile_eq_ok.mp h
  have hsource : q.table = table := by
    rw [hq]
    exact Query.table_addAll _ _
  rw [hsource]
  exact ⟨htable, hs, hq⟩

theorem conditions_of_compile (h : compile tables f = .ok q) :
    q.conditions = ((f.contribution tables q.table q.table).clauses.flatMap
      Clause.conditions).foldl (appendNew Condition.text) [] := by
  obtain ⟨-, -, hq⟩ := contribution_of_compile h
  exact (congrArg Query.conditions hq).trans (Query.conditions_addAll _ _)

theorem joins_of_compile (h : compile tables f = .ok q) :
    q.joins = (f.joins tables q.table).foldl (appendNew Join.table) [] := by
  obtain ⟨-, hs, hq⟩ := contribution_of_compile h
  rw [← (f.brings_contribution).joins hs]
  exact (congrArg Query.joins hq).trans (Query.joins_addAll _ _)

/-- Each condition among clauses reads some tables with table names. -/
theorem Clause.ListRead.exists_reads {clauses : List Clause} {scope : List String}
    (hs : ∀ t ∈ scope, isTableName t = true) (h : ListRead scope clauses) :
    ∀ c ∈ clauses.flatMap conditions, ∃ scope' : List String,
      (∀ t ∈ scope', isTableName t = true) ∧ c.Reads scope' := by
  refine fun c hc => ⟨_, fun t ht => ?_, h.reads c hc⟩
  rcases Join.mem_scopeAfter.mp ht with ht | ht
  · exact hs t ht
  · obtain ⟨j, hj, rfl⟩ := List.mem_map.mp ht
    exact h.joins.table j hj

/-- Each condition among clauses is a phrase that holds its own texts. -/
theorem Clause.ListRead.phrases {clauses : List Clause} {scope : List String}
    (hs : ∀ t ∈ scope, isTableName t = true) (h : ListRead scope clauses) :
    ∀ c ∈ clauses.flatMap conditions, Phrase c.lexemes ∧ Carries c.userTexts c.lexemes := by
  intro c hc
  obtain ⟨scope', hs', hread⟩ := h.exists_reads hs c hc
  exact ⟨hread.phrase hs', hread.carries⟩

/-- The conditions of a compiled query are phrases, collected from clauses that hold the texts of
the filter. -/
theorem exists_clauses_of_compile (hT : tables.invalidEntry? = none)
    (h : compile tables f = .ok q) : ∃ clauses : List Clause,
      clauses.flatMap Clause.userTexts = f.texts ∧
      q.conditions = (clauses.flatMap Clause.conditions).foldl (appendNew Condition.text) [] ∧
      ∀ c ∈ clauses.flatMap Clause.conditions,
        Phrase c.lexemes ∧ Carries c.userTexts c.lexemes := by
  obtain ⟨table, htable, hs, -, rfl⟩ := compile_eq_ok.mp h
  have ht := Tables.isTableName_of_table? hT htable
  have hread : (f.contribution tables table table).Reads [table] :=
    f.reads_contribution hT ht (List.mem_singleton_self table)
  refine ⟨_, (f.brings_contribution).texts hs, Query.conditions_addAll _ _, ?_⟩
  exact Clause.ListRead.phrases (List.forall_mem_singleton.mpr ht) hread

end ObservationQuery
