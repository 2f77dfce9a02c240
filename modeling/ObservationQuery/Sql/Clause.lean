import ObservationQuery.Sql.Query

/-!
# Collecting the parts of a query

The parts of a query are collected one by one and may be repeated: a condition, an expression or an
order key that is written like one that is there already is not added again, and a table is joined
once, under the first predicate given for it.

* `Query.addCondition`, `Query.addJoin`, `Query.addDistinct`, `Query.addOrderBy`,
  `Query.addSelect`, `Query.setLimit` — one part more.
* `Clause`, `Query.add`, `Query.addAll` — the parts that filters contribute.
-/

namespace ObservationQuery

/-- The list with `a` at its end, unless an element of it has the same `key`. -/
def appendNew {α κ : Type} [DecidableEq κ] (key : α → κ) (l : List α) (a : α) : List α :=
  if key a ∈ l.map key then l else l ++ [a]

/-- What tells order keys apart. -/
def OrderKey.key (k : OrderKey) : String × Option Direction := (k.expr.text, k.direction)

/-- A part of a query that a filter contributes. -/
inductive Clause where
  | join (join : Join)
  | condition (condition : Condition)
  | distinct (expr : Expr)
  | orderBy (key : OrderKey)

namespace Query

/-- The query of all rows of a table. -/
def ofTable (table : String) : Query := { table }

/-- The rows that satisfy a condition too. -/
def addCondition (q : Query) (condition : Condition) : Query :=
  { q with conditions := appendNew Condition.text q.conditions condition }

/-- Whether a table is joined. -/
def hasJoin (q : Query) (table : String) : Bool := q.joins.any (·.table == table)

/-- The rows matched with a further table. A table that is joined already stays as it is. -/
def addJoin (q : Query) (join : Join) : Query :=
  { q with joins := appendNew Join.table q.joins join }

/-- One row for each value of an expression too. -/
def addDistinct (q : Query) (expr : Expr) : Query :=
  { q with distinct := appendNew Expr.text q.distinct expr }

/-- A further order key after those the query has. -/
def addOrderBy (q : Query) (key : OrderKey) : Query :=
  { q with orderBy := appendNew OrderKey.key q.orderBy key }

/-- A further selected expression. -/
def addSelect (q : Query) (expr : Expr) : Query :=
  { q with select := appendNew Expr.text q.select expr }

/-- At most `limit` rows. -/
def setLimit (q : Query) (limit : UInt64) : Query := { q with limit := some limit }

/-- The query with a further clause. -/
def add (q : Query) : Clause → Query
  | .join join => q.addJoin join
  | .condition condition => q.addCondition condition
  | .distinct expr => q.addDistinct expr
  | .orderBy key => q.addOrderBy key

/-- The query with further clauses, in order. -/
def addAll (q : Query) (clauses : List Clause) : Query := clauses.foldl add q

@[simp] theorem addAll_nil (q : Query) : q.addAll [] = q := rfl

@[simp] theorem addAll_cons (q : Query) (c : Clause) (cs : List Clause) :
    q.addAll (c :: cs) = (q.add c).addAll cs := rfl

theorem addAll_append (q : Query) (cs ds : List Clause) :
    q.addAll (cs ++ ds) = (q.addAll cs).addAll ds := List.foldl_append

@[simp] theorem table_add (q : Query) (c : Clause) : (q.add c).table = q.table := by
  cases c <;> rfl

@[simp] theorem table_addAll (q : Query) (cs : List Clause) : (q.addAll cs).table = q.table := by
  induction cs generalizing q with
  | nil => rfl
  | cons c cs ih => rw [addAll_cons, ih, table_add]

end Query

end ObservationQuery
