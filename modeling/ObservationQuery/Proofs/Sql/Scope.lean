import Mathlib.Tactic.MkIffOfInductiveProp
import ObservationQuery.Proofs.Sql.Clauses
import ObservationQuery.Tables.Basic

/-!
# The tables that a query reads

A query reads columns of its table and of the tables joined with it, and a query inside a condition
reads columns of its own table only.

* `documentMembers` — the members of documents that are read.
* `Expr.Reads`, `Predicate.Reads`, `Condition.Reads` — only columns of the tables in a list are
  read, and nothing is given as SQL text.
* `Join.Reads`, `Join.ListRead` — each table is joined by a value of the tables before it.
* `Query.scope` — the tables of a query; `Query.Scoped` — a query reads nothing else.
* `Clause.ListRead` — the same for clauses that are still to be included in a query.

Principal result: `Query.Scoped.addAll` — a scoped query stays so with clauses that read its tables
and those they join.
-/

namespace ObservationQuery

/-- The members of documents that queries read. -/
def documentMembers : List String :=
  ["system@id", "internalID", "id", "uniqueID", "name", "recordSchema", "description", "validTime",
    "begin", "end", "properties", "uid", "outputName", "controlInputName"]

/-- The step goes to an item, or to a member that queries read. -/
def PathStep.Known : PathStep → Prop
  | member name => name ∈ documentMembers
  | item _ => True

/-- The expression reads columns of the tables in `scope`. -/
def Expr.Reads (scope : List String) : Expr → Prop
  | fragment _ => False
  | column table name => table ∈ scope ∧ isIdentifier name.toList = true
  | documentText table path => table ∈ scope ∧ ∀ step ∈ path, step.Known
  | group e => e.Reads scope
  | cast e _ => e.Reads scope

namespace Predicate

/-- The expressions whose values a predicate tests. -/
def exprs : Predicate → List Expr
  | fragment _ => []
  | equal left right => [left, right]
  | isNull e | hasId e _ | isText e _ | hasText e _ | isLike e _ | matchesRegex e _ => [e]
  | hasPath document _ => [document]
  | relatesTo geometry _ _ _ => [geometry]
  | liesWithin time _ _ => [time]
  | periodRelates start stop _ _ _ => [start, stop]

/-- The predicate reads columns of the tables in `scope`. -/
def Reads (scope : List String) (p : Predicate) : Prop :=
  (∀ sql, p ≠ fragment sql) ∧ ∀ e ∈ p.exprs, e.Reads scope

end Predicate

/-- A table with a table name is joined where a value of the tables in `scope` is one of its own. -/
def Join.Reads (scope : List String) (j : Join) : Prop :=
  isTableName j.table = true ∧
    ∃ left right, j.on = .equal left right ∧ left.Reads scope ∧ right.Reads [j.table]

/-- Each join reads the tables in `scope` and those joined before. -/
def Join.ListRead (scope : List String) : List Join → Prop
  | [] => True
  | j :: joins => j.Reads scope ∧ Join.ListRead (j.table :: scope) joins

/-- The tables that a query reads. -/
def Query.scope (q : Query) : List String := q.table :: q.joins.map Join.table

mutual

/-- The condition reads columns of the tables in `scope`; a query in it reads one table. -/
def Condition.Reads (scope : List String) : Condition → Prop
  | .anyOf first others => first.Reads scope ∧ ∀ p ∈ others, p.Reads scope
  | .inQuery key query => (∀ e ∈ key, e.Reads scope) ∧ query.joins = [] ∧ query.Scoped

/-- Each condition reads columns of the tables in `scope`. -/
def Condition.ListRead (scope : List String) : List Condition → Prop
  | [] => True
  | condition :: conditions => condition.Reads scope ∧ Condition.ListRead scope conditions

/-- The query reads columns of its tables only, and their names are table names. -/
def Query.Scoped : Query → Prop
  | ⟨table, select, distinct, joins, conditions, orderBy, _⟩ =>
    let scope := table :: joins.map Join.table
    isTableName table = true ∧ Join.ListRead [table] joins ∧ (∀ e ∈ select, e.Reads scope) ∧
      (∀ e ∈ distinct, e.Reads scope) ∧ Condition.ListRead scope conditions ∧
      ∀ key ∈ orderBy, key.expr.Reads scope

end

theorem Condition.listRead_iff {scope : List String} {cs : List Condition} :
    ListRead scope cs ↔ ∀ c ∈ cs, c.Reads scope := by
  induction cs with
  | nil => simp [ListRead]
  | cons c cs ih => rw [ListRead, ih, List.forall_mem_cons]

/-- What is read in a scoped query. -/
@[mk_iff]
structure Query.Reading (q : Query) : Prop where
  table : isTableName q.table = true
  joins : Join.ListRead [q.table] q.joins
  select : ∀ e ∈ q.select, e.Reads q.scope
  distinct : ∀ e ∈ q.distinct, e.Reads q.scope
  conditions : ∀ c ∈ q.conditions, c.Reads q.scope
  orderBy : ∀ key ∈ q.orderBy, key.expr.Reads q.scope

theorem Query.scoped_iff (q : Query) : q.Scoped ↔ q.Reading := by
  obtain ⟨table, select, distinct, joins, conditions, orderBy, limit⟩ := q
  rw [Scoped, Condition.listRead_iff, reading_iff]
  rfl

/-- A predicate on one expression. -/
theorem Predicate.reads_of_exprs_eq {scope : List String} {p : Predicate} {e : Expr}
    (hp : p.exprs = [e]) (he : e.Reads scope) : p.Reads scope := by
  refine ⟨?_, ?_⟩
  · rintro sql rfl
    cases hp
  · rw [hp]
    exact List.forall_mem_singleton.mpr he

/-! ## Larger scopes -/

section
variable {scope scope' : List String}

theorem Expr.Reads.mono (h : scope ⊆ scope') : ∀ {e : Expr}, e.Reads scope → e.Reads scope'
  | column _ _, he => ⟨h he.1, he.2⟩
  | documentText _ _, he => ⟨h he.1, he.2⟩
  | group e, he => Expr.Reads.mono (e := e) h he
  | cast e _, he => Expr.Reads.mono (e := e) h he

theorem Predicate.Reads.mono (h : scope ⊆ scope') {p : Predicate} (hp : p.Reads scope) :
    p.Reads scope' :=
  ⟨hp.1, fun e he => (hp.2 e he).mono h⟩

theorem Join.Reads.mono (h : scope ⊆ scope') {j : Join} (hj : j.Reads scope) : j.Reads scope' := by
  obtain ⟨ht, left, right, hon, hl, hr⟩ := hj
  exact ⟨ht, left, right, hon, hl.mono h, hr⟩

theorem Join.Reads.on {j : Join} (hj : j.Reads scope) : j.on.Reads (j.table :: scope) := by
  obtain ⟨-, left, right, hon, hl, hr⟩ := hj
  rw [hon]
  refine ⟨by simp, fun e he => ?_⟩
  rcases List.mem_cons.mp he with rfl | he
  · exact hl.mono (List.subset_cons_self _ _)
  · rw [List.mem_singleton.mp he]
    exact hr.mono (by simp)

theorem Condition.Reads.mono (h : scope ⊆ scope') {c : Condition} (hc : c.Reads scope) :
    c.Reads scope' := by
  cases c with
  | anyOf first others =>
    rw [Reads] at hc ⊢
    exact ⟨hc.1.mono h, fun p hp => (hc.2 p hp).mono h⟩
  | inQuery key query =>
    rw [Reads] at hc ⊢
    exact ⟨fun e he => (hc.1 e he).mono h, hc.2⟩

end

/-! ## Joined tables -/

/-- The tables that some joins bring into a scope. -/
def Join.scopeAfter (scope : List String) (joins : List Join) : List String :=
  joins.foldl (fun scope j => j.table :: scope) scope

theorem Join.mem_scopeAfter {t : String} {scope : List String} {joins : List Join} :
    t ∈ scopeAfter scope joins ↔ t ∈ scope ∨ t ∈ joins.map table := by
  induction joins generalizing scope with
  | nil => simp [scopeAfter]
  | cons j joins ih =>
    rw [scopeAfter, List.foldl_cons, ← scopeAfter, ih, List.mem_cons, List.map_cons, List.mem_cons]
    constructor
    · rintro ((h | h) | h)
      · exact .inr (.inl h)
      · exact .inl h
      · exact .inr (.inr h)
    · rintro (h | h | h)
      · exact .inl (.inr h)
      · exact .inl (.inl h)
      · exact .inr h

theorem Join.listRead_append {a b : List Join} : ∀ {scope : List String},
    ListRead scope (a ++ b) ↔ ListRead scope a ∧ ListRead (scopeAfter scope a) b := by
  induction a with
  | nil => simp [ListRead, scopeAfter]
  | cons j a ih =>
    intro scope
    rw [List.cons_append, ListRead, ListRead, ih, and_assoc]
    rfl

theorem Join.ListRead.table {scope : List String} {joins : List Join} (h : ListRead scope joins) :
    ∀ j ∈ joins, isTableName j.table = true := by
  induction joins generalizing scope with
  | nil => simp
  | cons j joins ih => exact List.forall_mem_cons.mpr ⟨h.1.1, ih h.2⟩

theorem Query.scopeAfter_joins (q : Query) (t : String) :
    t ∈ Join.scopeAfter [q.table] q.joins ↔ t ∈ q.scope := by
  rw [Join.mem_scopeAfter, List.mem_singleton, scope, List.mem_cons]

theorem Query.Reading.scope {q : Query} (h : q.Reading) :
    ∀ t ∈ q.scope, isTableName t = true := by
  intro t ht
  rcases List.mem_cons.mp ht with rfl | ht
  · exact h.table
  · obtain ⟨j, hj, rfl⟩ := List.mem_map.mp ht
    exact h.joins.table j hj

/-! ## Clauses -/

/-- The clauses read columns of the tables in `scope` and of those joined before. -/
def Clause.ListRead (scope : List String) : List Clause → Prop
  | [] => True
  | .join j :: clauses => j.Reads scope ∧ Clause.ListRead (j.table :: scope) clauses
  | .condition c :: clauses => c.Reads scope ∧ Clause.ListRead scope clauses
  | .distinct e :: clauses => e.Reads scope ∧ Clause.ListRead scope clauses
  | .orderBy key :: clauses => key.expr.Reads scope ∧ Clause.ListRead scope clauses

namespace Clause

variable {a b clauses : List Clause} {scope scope' : List String}

theorem ListRead.mono (h : scope ⊆ scope') (hcs : ListRead scope clauses) :
    ListRead scope' clauses := by
  induction clauses generalizing scope scope' with
  | nil => trivial
  | cons c clauses ih =>
    cases c with
    | join j =>
      have hj := List.cons_subset_cons j.table h
      exact ⟨hcs.1.mono h, ih hj hcs.2⟩
    | condition c => exact ⟨hcs.1.mono h, ih h hcs.2⟩
    | distinct e => exact ⟨hcs.1.mono h, ih h hcs.2⟩
    | orderBy key => exact ⟨hcs.1.mono h, ih h hcs.2⟩

theorem ListRead.append (ha : ListRead scope a) (hb : ListRead scope b) :
    ListRead scope (a ++ b) := by
  induction a generalizing scope with
  | nil => exact hb
  | cons c a ih =>
    cases c with
    | join j => exact ⟨ha.1, ih ha.2 (hb.mono (List.subset_cons_self _ _))⟩
    | condition c => exact ⟨ha.1, ih ha.2 hb⟩
    | distinct e => exact ⟨ha.1, ih ha.2 hb⟩
    | orderBy key => exact ⟨ha.1, ih ha.2 hb⟩

theorem ListRead.joins (h : ListRead scope clauses) :
    Join.ListRead scope (clauses.flatMap joins) := by
  induction clauses generalizing scope with
  | nil => trivial
  | cons c clauses ih =>
    cases c with
    | join j => exact ⟨h.1, ih h.2⟩
    | condition | distinct | orderBy => exact ih h.2

/-- Each condition among the clauses reads their scope and the tables that they join. -/
theorem ListRead.reads (h : ListRead scope clauses) : ∀ c ∈ clauses.flatMap conditions,
    c.Reads (Join.scopeAfter scope (clauses.flatMap Clause.joins)) := by
  induction clauses generalizing scope with
  | nil => simp
  | cons clause clauses ih =>
    intro c hc
    rw [List.flatMap_cons, List.mem_append] at hc
    cases clause with
    | join j => exact ih h.2 c (hc.resolve_left List.not_mem_nil)
    | condition d =>
      rcases hc with hc | hc
      · rw [List.mem_singleton.mp hc]
        exact h.1.mono fun t ht => Join.mem_scopeAfter.mpr (.inl ht)
      · exact ih h.2 c hc
    | distinct | orderBy => exact ih h.2 c (hc.resolve_left List.not_mem_nil)

end Clause

namespace Query

/-- A joined table is in scope, and so is everything that was. -/
theorem scope_addJoin (q : Query) (j : Join) : j.table :: q.scope ⊆ (q.addJoin j).scope := by
  have hscope : (q.addJoin j).scope =
      q.table :: (appendNew Join.table q.joins j).map Join.table := rfl
  intro t ht
  rw [hscope]
  unfold appendNew
  split
  · rename_i hmem
    rcases List.mem_cons.mp ht with rfl | ht
    · exact List.mem_cons_of_mem _ hmem
    · exact ht
  · rw [List.map_append, ← List.cons_append, List.mem_append]
    rcases List.mem_cons.mp ht with rfl | ht
    · exact .inr (by simp)
    · exact .inl ht

namespace Reading

variable {q : Query}

theorem addJoin (h : q.Reading) {j : Join} (hj : j.Reads q.scope) : (q.addJoin j).Reading := by
  have hsub : q.scope ⊆ (q.addJoin j).scope := fun t ht =>
    scope_addJoin q j (List.mem_cons_of_mem _ ht)
  refine ⟨h.table, ?_, fun e he => (h.select e he).mono hsub,
    fun e he => (h.distinct e he).mono hsub, fun c hc => (h.conditions c hc).mono hsub,
    fun k hk => (h.orderBy k hk).mono hsub⟩
  show Join.ListRead [q.table] (appendNew Join.table q.joins j)
  unfold appendNew
  split
  · exact h.joins
  · refine Join.listRead_append.mpr ⟨h.joins, hj.mono fun t ht => ?_, trivial⟩
    exact (q.scopeAfter_joins t).mpr ht

theorem addCondition (h : q.Reading) {c : Condition} (hc : c.Reads q.scope) :
    (q.addCondition c).Reading := by
  refine ⟨h.table, h.joins, h.select, h.distinct, fun d hd => ?_, h.orderBy⟩
  rcases mem_appendNew hd with hd | rfl
  · exact h.conditions d hd
  · exact hc

theorem addDistinct (h : q.Reading) {e : Expr} (he : e.Reads q.scope) :
    (q.addDistinct e).Reading := by
  refine ⟨h.table, h.joins, h.select, fun d hd => ?_, h.conditions, h.orderBy⟩
  rcases mem_appendNew hd with hd | rfl
  · exact h.distinct d hd
  · exact he

theorem addOrderBy (h : q.Reading) {key : OrderKey} (hk : key.expr.Reads q.scope) :
    (q.addOrderBy key).Reading := by
  refine ⟨h.table, h.joins, h.select, h.distinct, h.conditions, fun d hd => ?_⟩
  rcases mem_appendNew hd with hd | rfl
  · exact h.orderBy d hd
  · exact hk

theorem addSelect (h : q.Reading) {e : Expr} (he : e.Reads q.scope) :
    (q.addSelect e).Reading := by
  refine ⟨h.table, h.joins, fun d hd => ?_, h.distinct, h.conditions, h.orderBy⟩
  rcases mem_appendNew hd with hd | rfl
  · exact h.select d hd
  · exact he

theorem unlimited (h : q.Reading) : ({ q with limit := none } : Query).Reading :=
  ⟨h.table, h.joins, h.select, h.distinct, h.conditions, h.orderBy⟩

theorem ofTable {table : String} (h : isTableName table = true) : (ofTable table).Reading :=
  ⟨h, trivial, by simp [Query.ofTable], by simp [Query.ofTable], by simp [Query.ofTable],
    by simp [Query.ofTable]⟩

/-- **A query that reads its own tables still does so with clauses that read these and the tables
they join.** -/
theorem addAll {clauses : List Clause} {scope : List String} (h : q.Reading)
    (hsub : scope ⊆ q.scope) (hcs : Clause.ListRead scope clauses) :
    (q.addAll clauses).Reading := by
  induction clauses generalizing q scope with
  | nil => exact h
  | cons c clauses ih =>
    rw [addAll_cons]
    cases c with
    | join j =>
      have hj := List.cons_subset_cons j.table hsub
      exact ih (h.addJoin (hcs.1.mono hsub)) (List.Subset.trans hj (scope_addJoin q j)) hcs.2
    | condition c => exact ih (h.addCondition (hcs.1.mono hsub)) hsub hcs.2
    | distinct e => exact ih (h.addDistinct (hcs.1.mono hsub)) hsub hcs.2
    | orderBy key => exact ih (h.addOrderBy (hcs.1.mono hsub)) hsub hcs.2

end Reading

end Query

end ObservationQuery
