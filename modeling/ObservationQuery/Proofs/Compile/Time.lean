import ObservationQuery.Compile.Time
import ObservationQuery.Proofs.Compile.Contribution
import ObservationQuery.Proofs.Condition

/-!
# Criteria on times

* `TimedRows.Reads` — the expressions of the rows read columns of their own table.

Principal results: `TimeFilter.reads_contribution` — so does what a criterion contributes;
`TimeFilter.brings_contribution` — it joins no table and has no text of the user;
`TimeFilter.succeeds_contribution` — it fails exactly when a range ends before it begins.
-/

namespace ObservationQuery

/-- The expressions that a target compares. -/
def TimeTarget.exprs : TimeTarget → List Expr
  | moment time => [time]
  | period start stop newest => [start, stop, newest]

/-- The expressions of the rows read columns of their table, which has a table name. -/
structure TimedRows.Reads (rows : TimedRows) : Prop where
  table : isTableName rows.table = true
  key : ∀ e ∈ rows.key, e.Reads [rows.table]
  target : ∀ e ∈ rows.target.exprs, e.Reads [rows.table]
  group : ∀ e ∈ rows.group, e.Reads [rows.table]

variable {scope : List String}

namespace TimeTarget

theorem newest_mem_exprs (target : TimeTarget) : target.newest ∈ target.exprs := by
  cases target <;> simp [newest, exprs]

theorem reads_relates {target : TimeTarget} (h : ∀ e ∈ target.exprs, e.Reads scope)
    (first last : Instant) (relation : PeriodRelation) :
    (target.relates first last relation).Reads scope := by
  cases target with
  | moment time => exact Condition.reads_of ⟨by simp, h⟩
  | period start stop newest =>
    refine Condition.reads_of ⟨by simp, fun e he => h e ?_⟩
    rcases List.mem_cons.mp he with rfl | he
    · exact List.mem_cons_self
    · rw [List.mem_singleton.mp he]
      exact List.mem_cons_of_mem _ List.mem_cons_self

theorem userTexts_relates (target : TimeTarget) (first last : Instant)
    (relation : PeriodRelation) : (target.relates first last relation).userTexts = [] := by
  cases target with
  | moment time => exact Condition.userTexts_of _
  | period start stop newest => exact Condition.userTexts_of _

end TimeTarget

namespace LatestRows

/-- The clauses neither join nor constrain. -/
theorem flatMap_clauses {β : Type} {μ : Clause → List β} (hd : ∀ e, μ (.distinct e) = [])
    (ho : ∀ key, μ (.orderBy key) = []) (rows : LatestRows) : rows.clauses.flatMap μ = [] := by
  rw [List.flatMap_eq_nil_iff]
  intro c hc
  simp only [clauses, List.mem_append, List.mem_map, List.mem_singleton] at hc
  rcases hc with (⟨e, -, rfl⟩ | ⟨e, -, rfl⟩) | rfl
  · exact hd e
  · exact ho _
  · exact ho _

theorem listRead_clauses {rows : LatestRows} (hg : ∀ e ∈ rows.group, e.Reads scope)
    (ht : rows.time.Reads scope) : Clause.ListRead scope rows.clauses := by
  have hdistinct : ∀ es : List Expr, (∀ e ∈ es, e.Reads scope) →
      Clause.ListRead scope (es.map .distinct) := by
    intro es h
    induction es with
    | nil => trivial
    | cons e es ih =>
      rw [List.forall_mem_cons] at h
      exact ⟨h.1, ih h.2⟩
  have horder : ∀ es : List Expr, (∀ e ∈ es, e.Reads scope) →
      Clause.ListRead scope (es.map fun e => .orderBy (.plain e)) := by
    intro es h
    induction es with
    | nil => trivial
    | cons e es ih =>
      rw [List.forall_mem_cons] at h
      exact ⟨h.1, ih h.2⟩
  exact ((hdistinct _ hg).append (horder _ hg)).append ⟨ht, trivial⟩

theorem reading_select {q : Query} (hq : q.Reading) : ∀ {key : List Expr},
    (∀ e ∈ key, e.Reads q.scope) → (key.foldl Query.addSelect q).Reading
  | [], _ => hq
  | e :: key, h => reading_select (hq.addSelect (h e (by simp)))
      fun d hd => h d (List.mem_cons_of_mem _ hd)

theorem foldl_addSelect (key : List Expr) (q : Query) : (key.foldl Query.addSelect q).joins =
    q.joins ∧ (key.foldl Query.addSelect q).conditions = q.conditions ∧
      (key.foldl Query.addSelect q).scope = q.scope := by
  induction key generalizing q with
  | nil => exact ⟨rfl, rfl, rfl⟩
  | cons e key ih => exact ih (q.addSelect e)

/-- The query of the newest keys reads its own table only. -/
theorem keyQuery_scoped {rows : LatestRows} {table : String} {key : List Expr}
    (ht : isTableName table = true) (hk : ∀ e ∈ key, e.Reads [table])
    (hg : ∀ e ∈ rows.group, e.Reads [table]) (hn : rows.time.Reads [table]) :
    (rows.keyQuery table key).joins = [] ∧ (rows.keyQuery table key).Scoped := by
  obtain ⟨hjoins, -, hscope⟩ := foldl_addSelect key (.ofTable table)
  have hselect := reading_select (Query.Reading.ofTable ht) hk
  refine ⟨?_, (Query.scoped_iff _).mpr ?_⟩
  · rw [keyQuery, Query.joins_addAll, flatMap_clauses (fun _ => rfl) (fun _ => rfl), hjoins]
    rfl
  · refine hselect.addAll ?_ (listRead_clauses hg hn)
    rw [hscope]
    exact List.Subset.refl _

theorem conditions_keyQuery (rows : LatestRows) (table : String) (key : List Expr) :
    (rows.keyQuery table key).conditions = [] := by
  rw [keyQuery, Query.conditions_addAll, flatMap_clauses (fun _ => rfl) (fun _ => rfl),
    (foldl_addSelect key _).2.1]
  rfl

theorem userTexts_keyCondition (rows : LatestRows) (table : String) (key : List Expr) :
    (rows.keyCondition table key).userTexts = [] := by
  rw [keyCondition, Condition.userTexts, Query.userTexts_eq, conditions_keyQuery,
    List.flatMap_nil]

end LatestRows

namespace TimeFilter

variable {rows : TimedRows} (root : String) (filter : TimeFilter)

/-- The clauses of a filter that has a query. -/
theorem resolve_eq_ok {target : TimeTarget} {group : List Expr} {criterion : TimeCriterion}
    (h : TimeCriterion.resolve filter target group = .ok criterion) :
    (filter = .latest ∧ criterion = .latest ⟨group, target.newest⟩) ∨
      ∃ first last relation, filter = .range first last relation ∧ first ≤ last ∧
        criterion = .range (target.relates first last relation) := by
  cases filter with
  | latest =>
    cases h
    exact .inl ⟨rfl, rfl⟩
  | range first last relation =>
    rw [TimeCriterion.resolve] at h
    split at h
    · rename_i hle
      cases h
      exact .inr ⟨first, last, relation, rfl, hle, rfl⟩
    · cases h

/-- **What a criterion contributes reads the table of its rows.** -/
theorem reads_contribution (h : rows.Reads) (hscope : rows.table ∈ scope) :
    (filter.contribution root rows).Reads scope := by
  have hsub : [rows.table] ⊆ scope := by simpa using hscope
  refine Contribution.Reads.ofExcept fun criterion hcriterion => ?_
  obtain ⟨-, rfl⟩ | ⟨first, last, relation, -, -, rfl⟩ := resolve_eq_ok filter hcriterion
  · have hnewest := h.target _ rows.target.newest_mem_exprs
    show Clause.ListRead scope (if root = rows.table then _ else _)
    split
    · exact (LatestRows.listRead_clauses h.group hnewest).mono hsub
    · refine ⟨?_, trivial⟩
      rw [LatestRows.keyCondition, Condition.Reads]
      exact ⟨fun e he => (h.key e he).mono hsub,
        LatestRows.keyQuery_scoped h.table h.key h.group hnewest⟩
  · exact ⟨(TimeTarget.reads_relates h.target first last relation).mono hsub, trivial⟩

/-- A criterion joins nothing and has no texts of the user. -/
theorem brings_contribution : (filter.contribution root rows).Brings [] [] := by
  refine .ofExcept fun criterion hcriterion => ?_
  obtain ⟨-, rfl⟩ | ⟨first, last, relation, -, -, rfl⟩ := resolve_eq_ok filter hcriterion
  · rw [TimeCriterion.clausesIn]
    split
    · exact ⟨fun _ => LatestRows.flatMap_clauses (fun _ => rfl) (fun _ => rfl) _,
        fun _ => LatestRows.flatMap_clauses (fun _ => rfl) (fun _ => rfl) _⟩
    · exact .condition (LatestRows.userTexts_keyCondition _ rows.table rows.key)
  · exact .condition (rows.target.userTexts_relates first last relation)

/-- The filter asks for the latest values, or for a range that does not end before it begins. -/
def Ordered : TimeFilter → Prop
  | latest => True
  | range first last _ => first ≤ last

/-- **A criterion fails exactly when its range ends before it begins.** -/
@[simp] theorem succeeds_contribution :
    (filter.contribution root rows).Succeeds ↔ filter.Ordered := by
  rw [contribution, Contribution.succeeds_ofExcept]
  cases filter with
  | latest => exact ⟨fun _ => trivial, fun _ => ⟨_, rfl, rfl⟩⟩
  | range first last relation =>
    constructor
    · rintro ⟨criterion, h, -⟩
      obtain ⟨h, -⟩ | ⟨_, _, _, h, hle, -⟩ := resolve_eq_ok _ h
      · cases h
      · cases h
        exact hle
    · intro h
      exact ⟨_, if_pos h, rfl⟩

end TimeFilter

end ObservationQuery
