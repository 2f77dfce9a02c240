import ObservationQuery.Proofs.Compile.Filter

/-!
# Sequences of calls

A query is reached from the fresh query of a table by calls, each of which adds a part, selects an
expression, sets the limit or adds what a filter contributes.

* `Query.Call`, `Query.call`, `Query.callAll` — a call, and queries after one call and after several.
* `Query.build` — the query that calls reach from the fresh query of a table.
* `Call.clauses`, `Call.exprs`, `Call.limits` — what a call adds, selects and sets.

Principal results: `Query.callAll_eq` — what a query is after several calls, each kind of them taken
on its own; `Query.exists_calls_of_compile` — compiled queries are reached by calls.
-/

namespace ObservationQuery

namespace Query

/-- A call that changes a query. -/
inductive Call where
  /-- One join, condition, distinct expression or order key more. -/
  | add (clause : Clause)
  | select (expr : Expr)
  | limit (n : UInt64)
  /-- A filter is compiled into the query, as far as it can be. -/
  | compile (tables : Tables) (table : String) (pin : Option Int64) (filter : Filter)

/-- The query after a call. -/
def call (q : Query) : Call → Query
  | .add clause => q.add clause
  | .select expr => q.addSelect expr
  | .limit n => q.setLimit n
  | .compile tables table pin filter => (filter.compileInto tables table pin q).1

/-- The query after several calls, in order. -/
def callAll (q : Query) (calls : List Call) : Query := calls.foldl call q

/-- The query that calls reach from the fresh query of a table. -/
def build (table : String) (calls : List Call) : Query := (ofTable table).callAll calls

namespace Call

/-- The clauses that a call adds to a query over the table `root`. -/
def clauses (root : String) : Call → List Clause
  | add clause => [clause]
  | compile tables table pin filter =>
    (filter.pinnedContribution tables root table pin).clauses
  | _ => []

/-- The expression that a call selects. -/
def exprs : Call → List Expr
  | select expr => [expr]
  | _ => []

/-- The limit that a call sets. -/
def limits : Call → List UInt64
  | limit n => [n]
  | _ => []

end Call

@[simp] theorem callAll_nil (q : Query) : q.callAll [] = q := rfl

@[simp] theorem callAll_cons (q : Query) (c : Call) (calls : List Call) :
    q.callAll (c :: calls) = (q.call c).callAll calls := rfl

/-- The query with other selected expressions and another limit. -/
def present (q : Query) (select : List Expr) (limit : Option UInt64) : Query :=
  { q with select, limit }

@[simp] theorem table_present (q : Query) (select : List Expr) (limit : Option UInt64) :
    (q.present select limit).table = q.table := rfl

theorem present_self (q : Query) : q.present q.select q.limit = q := by
  obtain ⟨⟩ := q
  rfl

/-- Clauses leave the selected expressions and the limit as they are, whichever these are. -/
theorem addAll_present (q : Query) (select : List Expr) (limit : Option UInt64)
    (clauses : List Clause) :
    (q.present select limit).addAll clauses = (q.addAll clauses).present select limit := by
  induction clauses generalizing q with
  | nil => rfl
  | cons c clauses ih =>
    rw [addAll_cons, addAll_cons, ← ih]
    cases c <;> rfl

theorem present_addAll_self (q : Query) (clauses : List Clause) :
    (q.addAll clauses).present q.select q.limit = q.addAll clauses := by
  rw [← addAll_present, present_self]

/-- What a call does to each kind of parts. -/
theorem call_eq (q : Query) (c : Call) : q.call c = (q.addAll (c.clauses q.table)).present
    (c.exprs.foldl (appendNew Expr.text) q.select)
    (c.limits.foldl (fun _ n => some n) q.limit) := by
  cases c with
  | add clause => exact (present_addAll_self q [clause]).symm
  | select | limit => rfl
  | compile tables table pin filter => exact (present_addAll_self q _).symm

/-- **After several calls, a query has the clauses that they add, those of the selected expressions
that it had not, and the last limit that they set.** -/
theorem callAll_eq (q : Query) (calls : List Call) :
    q.callAll calls = (q.addAll (calls.flatMap (Call.clauses q.table))).present
      ((calls.flatMap Call.exprs).foldl (appendNew Expr.text) q.select)
      ((calls.flatMap Call.limits).foldl (fun _ n => some n) q.limit) := by
  induction calls generalizing q with
  | nil => exact (present_self q).symm
  | cons c calls ih =>
    rw [callAll_cons, ih, call_eq, table_present, table_addAll, addAll_present]
    simp only [List.flatMap_cons, List.foldl_append, addAll_append]
    rfl

/-- A compiled query is reached by compiling its filter into the fresh query and setting its
limit. -/
theorem exists_calls_of_compile {tables : Tables} {f : Filter} {q : Query}
    (h : ObservationQuery.compile tables f = .ok q) : ∃ table calls, q = build table calls := by
  obtain ⟨table, -, -, -, rfl⟩ := compile_eq_ok.mp h
  refine ⟨table, .compile tables table none f :: f.limit.toList.map .limit, ?_⟩
  rw [build, callAll_eq]
  cases f.limit <;> simp [Call.clauses, Call.exprs, Call.limits, present, Query.include, ofTable]

end Query

end ObservationQuery
