import ObservationQuery.Compile.Contribution

/-!
# Criteria on times

A range is a condition. The latest values are not: they reshape the query, so that each series
gives one row, its newest. Only the filter on the table of the query may do so; on any other table
the criterion narrows the key of its rows to those of the newest.

* `TimeTarget` — what a criterion constrains: a single time or a validity period.
* `LatestRows` — the newest row of each series; `LatestRows.clauses` reshape a query,
  `LatestRows.keyCondition` is a condition.
* `TimeCriterion.resolve` — a filter as one or the other; a range must not end before it begins.
* `TimeFilter.contribution` — what a filter contributes to a query over some table.
-/

namespace ObservationQuery

/-- What a criterion on a time constrains. -/
inductive TimeTarget where
  /-- A time, which has to lie in a range. -/
  | moment (time : Expr)
  /-- A validity period, which is compared with a range. The newest has the greatest `newest`. -/
  | period (start stop newest : Expr)
  deriving DecidableEq, Repr

/-- The expression that is greatest in the newest row. -/
def TimeTarget.newest : TimeTarget → Expr
  | moment time => time
  | period _ _ newest => newest

/-- The condition that a target relates to the interval between two instants. -/
def TimeTarget.relates (target : TimeTarget) (first last : Instant) (relation : PeriodRelation) :
    Condition :=
  match target with
  | moment time => .of (.liesWithin time first last)
  | period start stop _ => .of (.periodRelates start stop relation first last)

/-- The newest row of each series; the expressions of `group` tell the series apart. -/
structure LatestRows where
  group : List Expr
  time : Expr
  deriving DecidableEq, Repr

namespace LatestRows

/-- One row for each series, the newest first within it. -/
def clauses (rows : LatestRows) : List Clause :=
  rows.group.map .distinct ++ rows.group.map (fun e => .orderBy (.plain e)) ++
    [.orderBy (.latest rows.time)]

/-- The query of the keys of the newest rows of a table. -/
def keyQuery (rows : LatestRows) (table : String) (key : List Expr) : Query :=
  (key.foldl Query.addSelect (.ofTable table)).addAll rows.clauses

/-- The key is that of one of the newest rows of a table. -/
def keyCondition (rows : LatestRows) (table : String) (key : List Expr) : Condition :=
  .inQuery key (rows.keyQuery table key)

end LatestRows

/-- A criterion on a time as a part of a query. -/
inductive TimeCriterion where
  | range (condition : Condition)
  | latest (rows : LatestRows)

namespace TimeCriterion

/-- The criterion of a filter on a target. The expressions of `group` tell the series apart. -/
def resolve (filter : TimeFilter) (target : TimeTarget) (group : List Expr) :
    Except CompileError TimeCriterion :=
  match filter with
  | .latest => .ok (latest ⟨group, target.newest⟩)
  | .range first last relation =>
    if first ≤ last then .ok (range (target.relates first last relation))
    else .error (.invalidFilter (.reversedRange first last))

/-- The clauses of the criterion in a query over its own table. -/
def clauses : TimeCriterion → List Clause
  | range condition => [.condition condition]
  | latest rows => rows.clauses

/-- The clauses of a criterion on the rows of `table`, which `key` tells apart, in a query over the
table `root`. -/
def clausesIn (root table : String) (key : List Expr) : TimeCriterion → List Clause
  | range condition => [.condition condition]
  | latest rows =>
    if root = table then rows.clauses else [.condition (rows.keyCondition table key)]

end TimeCriterion

/-- The rows that a criterion on a time selects from: their table, the key that tells one row from
another, what the criterion constrains, and the expressions that tell the series apart. -/
structure TimedRows where
  table : String
  key : List Expr
  target : TimeTarget
  group : List Expr
  deriving DecidableEq, Repr

/-- What a criterion on a time contributes to a query over the table `root`. -/
def TimeFilter.contribution (root : String) (rows : TimedRows) (filter : TimeFilter) :
    Contribution :=
  .ofExcept (fun criterion => { clauses := criterion.clausesIn root rows.table rows.key })
    (TimeCriterion.resolve filter rows.target rows.group)

end ObservationQuery
