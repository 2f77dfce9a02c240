import ObservationQuery.Sql.Predicate
import ObservationQuery.Sql.Token

/-!
# Queries

* `Condition` — a condition on a row: alternatives, or a key found by another query.
* `Query` — a selection of rows of one table.
* `Query.text`, `Query.countText` — the query that returns the rows and the one that counts them.
-/

namespace ObservationQuery

/-- A further table whose rows are matched by a predicate. -/
structure Join where
  table : String
  on : Predicate
  deriving DecidableEq, Repr

/-- The direction of an order key. -/
inductive Direction where
  | ascending
  | descending
  deriving DecidableEq, Repr

/-- An order key; without a direction the database chooses its own, which is ascending. -/
structure OrderKey where
  expr : Expr
  direction : Option Direction
  deriving DecidableEq, Repr

/-- The order key `expr` in the direction of the database. -/
def OrderKey.plain (expr : Expr) : OrderKey := ⟨expr, none⟩

/-- The order key `expr`, greatest first. -/
def OrderKey.latest (expr : Expr) : OrderKey := ⟨expr, some .descending⟩

mutual

/-- A condition on a row. -/
inductive Condition where
  /-- At least one of the predicates holds. -/
  | anyOf (first : Predicate) (others : List Predicate)
  /-- The key is one of those that a query returns. -/
  | inQuery (key : List Expr) (query : Query)

/-- A query over one table. A query that selects no expressions returns all columns. -/
structure Query where
  table : String
  select : List Expr := []
  /-- There is one row for each value of these expressions, if there are any. -/
  distinct : List Expr := []
  joins : List Join := []
  conditions : List Condition := []
  orderBy : List OrderKey := []
  limit : Option UInt64 := none

end

/-- The condition of a single predicate. -/
def Condition.of (p : Predicate) : Condition := anyOf p []

/-- Alternatives, if there are any. -/
def Condition.anyOf? : List Predicate → Option Condition
  | [] => none
  | first :: others => some (anyOf first others)

/-! ## Text -/

/-- The clause of a joined table. -/
def Join.tokens (j : Join) : TokenStream :=
  [.inner, .space, .join, .space, .fragment j.table, .space, .on, .space, .fragment j.on.text]

/-- An order key with its direction. -/
def OrderKey.tokens (key : OrderKey) : TokenStream :=
  match key.direction with
  | none => [.fragment key.expr.text]
  | some .ascending => [.fragment key.expr.text, .space, .asc]
  | some .descending => [.fragment key.expr.text, .space, .desc]

namespace TokenStream

/-- The table, the joined tables and the conditions, which are given as texts. -/
def source (table : String) (joins : List Join) (conditions : List String) : TokenStream :=
  [.from, .space, .fragment table] ++ joins.flatMap (fun join => .space :: join.tokens) ++
    (if conditions = [] then [] else [.space, .where, .space] ++ separated .and conditions)

/-- The expressions each value of which gives one row. -/
def distinctOn (distinct : List Expr) : TokenStream :=
  if distinct = [] then []
  else [.distinct, .space, .on, .space, .leftParen] ++ separated .comma (distinct.map Expr.text) ++
    [.rightParen, .space]

/-- The selected expressions, or all columns of the table. -/
def selected (table : String) (select : List Expr) : TokenStream :=
  if select = [] then [.fragment table, .dot, .star] else separated .comma (select.map Expr.text)

/-- The order keys. -/
def ordered (keys : List OrderKey) : TokenStream :=
  if keys = [] then []
  else [.space, .orderBy, .space] ++ [.comma, .space].intercalate (keys.map OrderKey.tokens)

/-- The greatest number of rows. -/
def limited : Option UInt64 → TokenStream
  | none => []
  | some n => [.space, .limit, .space, .natural n]

end TokenStream

open TokenStream

mutual

/-- How a condition is written. -/
def Condition.text : Condition → String
  | .anyOf first others => Predicate.anyText first others
  | .inQuery key query => Expr.keyText key ++ " IN (" ++ query.tokens.text ++ ")"

/-- How conditions are written. -/
def Condition.texts : List Condition → List String
  | [] => []
  | condition :: conditions => condition.text :: Condition.texts conditions

/-- The query that returns the rows. -/
def Query.tokens : Query → TokenStream
  | ⟨table, select, distinct, joins, conditions, orderBy, limit⟩ =>
    [.select, .space] ++ distinctOn distinct ++ selected table select ++ [.space] ++
      source table joins (Condition.texts conditions) ++ ordered orderBy ++ limited limit

end

theorem Condition.texts_eq_map (cs : List Condition) : texts cs = cs.map text := by
  induction cs with
  | nil => rfl
  | cons c cs ih => rw [texts, ih, List.map_cons]

namespace Query

/-- The table, the joined tables and the conditions, which both forms of the query share. -/
def sourceTokens (q : Query) : TokenStream :=
  source q.table q.joins (q.conditions.map Condition.text)

theorem tokens_eq (q : Query) :
    q.tokens = [.select, .space] ++ distinctOn q.distinct ++ selected q.table q.select ++
      [.space] ++ q.sourceTokens ++ ordered q.orderBy ++ limited q.limit := by
  obtain ⟨⟩ := q
  rw [tokens, Condition.texts_eq_map, sourceTokens]

/-- The query that counts the rows, whatever the limit. When there is one row for each value of
some expressions, the counted rows are those the query returns. -/
def countTokens (q : Query) : TokenStream :=
  [.select, .space, .count, .leftParen, .star, .rightParen, .space] ++
    (if q.distinct = [] then q.sourceTokens
     else [.from, .space, .leftParen] ++ { q with limit := none }.tokens ++
       [.rightParen, .space, .as, .space, .fragment "counted"])

/-- The query that returns the rows. -/
def text (q : Query) : String := q.tokens.text

/-- The query that counts the rows. -/
def countText (q : Query) : String := q.countTokens.text

end Query

end ObservationQuery
