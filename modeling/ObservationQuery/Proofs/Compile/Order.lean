import Mathlib.Data.List.Nodup
import ObservationQuery.Proofs.Compile.Time

/-!
# One row for each series

A query that has one row for each value of some expressions must be ordered by these expressions
first, and the keys that follow decide which row it is.

* `Query.Headed` — the order begins with the distinct expressions, and times follow, the greatest
  first.
* `TimedRows.newest`, `TimedRows.newestCondition` — the newest of some rows, as a shape of a query
  and as a condition.
* `TimedRows.Series` — rows with the same series and different times.
* `TimedRows.Shape` — a query has one row for each series, the newest of some rows.

Principal results: `TimedRows.Series.shape_addAll` — the newest rows of several times share their
series in a query; `TimedRows.keyQuery_eq`, `TimedRows.newestCondition_eq` — what the query in the
condition is;
`TimedRows.Shape.headed`, `TimedRows.headed_keyQuery` — these queries are headed.
-/

namespace ObservationQuery

/-- The order begins with the distinct expressions, in their order and without a direction. If there
are any, at least one time follows, and nothing but times, the greatest first; else there is no
order. -/
def Query.Headed (q : Query) : Prop :=
  ∃ times : List Expr, q.orderBy = q.distinct.map .plain ++ times.map .latest ∧
    (q.distinct = [] ↔ times = [])

/-! ## The newest rows -/

/-- The order keys of the newest rows. -/
def LatestRows.orderKeys (rows : LatestRows) : List OrderKey :=
  rows.group.map .plain ++ [.latest rows.time]

namespace LatestRows

theorem distincts_clauses (rows : LatestRows) :
    rows.clauses.flatMap Clause.distincts = rows.group := by
  simp [clauses, List.flatMap_append, List.flatMap_map, Clause.distincts]

theorem orderKeys_clauses (rows : LatestRows) :
    rows.clauses.flatMap Clause.orderKeys = rows.orderKeys := by
  simp [clauses, List.flatMap_append, List.flatMap_map, Clause.orderKeys, orderKeys,
    ← List.map_eq_flatMap]

end LatestRows

namespace TimedRows

/-- The newest row of each series. -/
def newest (rows : TimedRows) : LatestRows := ⟨rows.group, rows.target.newest⟩

/-- The key is that of one of the newest rows: it is one that a query over the table of the rows
returns. -/
def newestCondition (rows : TimedRows) : Condition := rows.newest.keyCondition rows.table rows.key

/-- The rows have the series `group`, which is told apart by different expressions, and different
times. -/
structure Series (group : List Expr) (rows : List TimedRows) : Prop where
  group_eq : ∀ r ∈ rows, r.group = group
  group_ne_nil : group ≠ []
  nodup_group : (group.map Expr.text).Nodup
  nodup_times : (rows.map fun r => r.target.newest.text).Nodup

namespace Series

variable {group : List Expr} {rows : List TimedRows} {r : TimedRows}

theorem sublist {rest : List TimedRows} (h : Series group rows) (hsub : rest.Sublist rows) :
    Series group rest :=
  ⟨fun s hs => h.group_eq s (hsub.subset hs), h.group_ne_nil, h.nodup_group,
    h.nodup_times.sublist (hsub.map _)⟩

theorem tail (h : Series group (r :: rows)) : Series group rows :=
  h.sublist (List.sublist_cons_self r rows)

theorem single (hne : group ≠ []) (hnodup : (group.map Expr.text).Nodup) (hr : r.group = group) :
    Series group [r] :=
  ⟨fun _ hs => List.mem_singleton.mp hs ▸ hr, hne, hnodup, List.nodup_singleton _⟩

/-- The distinct expressions of the rows are those of their series. -/
theorem foldl_group (h : Series group rows) :
    (rows.flatMap TimedRows.group).foldl (appendNew Expr.text) [] =
      if rows = [] then [] else group := by
  cases rows with
  | nil => rfl
  | cons r rows =>
    have hfirst : group.foldl (appendNew Expr.text) [] = group := foldl_appendNew_eq h.nodup_group
    have hrest : ∀ e ∈ rows.flatMap TimedRows.group, e.text ∈ group.map Expr.text := by
      intro e he
      obtain ⟨s, hs, he⟩ := List.mem_flatMap.mp he
      rw [h.tail.group_eq s hs] at he
      exact List.mem_map_of_mem he
    rw [List.flatMap_cons, List.foldl_append, h.group_eq r List.mem_cons_self, hfirst,
      foldl_appendNew_eq_self hrest, if_neg (List.cons_ne_nil r rows)]

theorem orderKeys_head (h : Series group (r :: rows)) :
    r.newest.orderKeys = group.map .plain ++ [.latest r.target.newest] := by
  rw [LatestRows.orderKeys, newest, h.group_eq r List.mem_cons_self]

/-- Plain keys and keys of times differ, and so do those of different texts. -/
theorem nodup_keys {times : List Expr} (hgroup : (group.map Expr.text).Nodup)
    (htimes : (times.map Expr.text).Nodup) :
    ((group.map OrderKey.plain ++ times.map OrderKey.latest).map OrderKey.key).Nodup := by
  have hplain : (group.map OrderKey.plain).map OrderKey.key =
      (group.map Expr.text).map (·, none) := by
    rw [List.map_map, List.map_map]
    rfl
  have hlatest : (times.map OrderKey.latest).map OrderKey.key =
      (times.map Expr.text).map (·, some .descending) := by
    rw [List.map_map, List.map_map]
    rfl
  rw [List.map_append, hplain, hlatest, List.nodup_append]
  refine ⟨hgroup.map fun a b hab => (Prod.ext_iff.mp hab).1,
    htimes.map fun a b hab => (Prod.ext_iff.mp hab).1, ?_⟩
  intro k hk l hl hkl
  obtain ⟨_, -, rfl⟩ := List.mem_map.mp hk
  obtain ⟨_, -, rfl⟩ := List.mem_map.mp hl
  cases hkl

/-- Once the keys of a series are there, each of its rows adds the key of its time. -/
theorem foldl_orderKeys_append (h : Series group rows) (times : List Expr)
    (htimes : ((times ++ rows.map fun r => r.target.newest).map Expr.text).Nodup) :
    (rows.flatMap fun r => r.newest.orderKeys).foldl (appendNew OrderKey.key)
        (group.map .plain ++ times.map .latest) =
      group.map .plain ++ (times ++ rows.map fun r => r.target.newest).map .latest := by
  induction rows generalizing times with
  | nil => simp
  | cons r rows ih =>
    have hthere : ∀ k ∈ group.map OrderKey.plain, k.key ∈
        (group.map OrderKey.plain ++ times.map OrderKey.latest).map OrderKey.key := by
      intro k hk
      exact List.mem_map_of_mem (List.mem_append_left _ hk)
    have hassoc : times ++ (r :: rows).map (fun r => r.target.newest) =
        times ++ [r.target.newest] ++ rows.map fun r => r.target.newest := by simp
    rw [hassoc] at htimes ⊢
    have hnew : ((times ++ [r.target.newest]).map Expr.text).Nodup := by
      rw [List.map_append] at htimes
      exact (List.nodup_append.mp htimes).1
    have htime : [OrderKey.latest r.target.newest].foldl (appendNew OrderKey.key)
        (group.map .plain ++ times.map .latest) =
          group.map .plain ++ (times ++ [r.target.newest]).map .latest := by
      have hnodup := nodup_keys h.nodup_group hnew
      have hlast : group.map OrderKey.plain ++ (times ++ [r.target.newest]).map .latest =
          group.map OrderKey.plain ++ times.map .latest ++ [.latest r.target.newest] := by
        rw [List.map_append, List.append_assoc]
        rfl
      rw [hlast] at hnodup ⊢
      exact foldl_appendNew_eq hnodup
    rw [List.flatMap_cons, List.foldl_append, h.orderKeys_head, List.foldl_append,
      foldl_appendNew_eq_self hthere, htime, ih h.tail _ htimes]

/-- The order keys of the rows are those of their series, then those of their times. -/
theorem foldl_orderKeys (h : Series group rows) :
    (rows.flatMap fun r => r.newest.orderKeys).foldl (appendNew OrderKey.key) [] =
      if rows = [] then []
      else group.map .plain ++ (rows.map fun r => r.target.newest).map .latest := by
  cases rows with
  | nil => rfl
  | cons r rows =>
    have hnone : (([] : List Expr).map Expr.text).Nodup := List.nodup_nil
    have hplain : ((group.map OrderKey.plain).map OrderKey.key).Nodup := by
      simpa using nodup_keys h.nodup_group hnone
    have hgroup : (group.map OrderKey.plain).foldl (appendNew OrderKey.key) [] =
        group.map .plain := foldl_appendNew_eq hplain
    have hagain : (group.map OrderKey.plain).foldl (appendNew OrderKey.key) (group.map .plain) =
        group.map .plain := foldl_appendNew_eq_self fun k hk => List.mem_map_of_mem hk
    -- The series may as well be there before its first row.
    have hall := h.foldl_orderKeys_append []
      (by rw [List.nil_append, List.map_map]; exact h.nodup_times)
    rw [if_neg (List.cons_ne_nil r rows), ← List.nil_append (List.map _ (r :: rows)), ← hall,
      List.map_nil, List.append_nil, List.flatMap_cons, List.foldl_append, List.foldl_append,
      h.orderKeys_head, List.foldl_append, List.foldl_append, hgroup, hagain]

end Series

/-- The query has one row for each series `group`, the newest of `rows`, if there are any. -/
structure Shape (group : List Expr) (rows : List TimedRows) (q : Query) : Prop where
  distinct : q.distinct = if rows = [] then [] else group
  orderBy : q.orderBy = if rows = [] then []
    else group.map .plain ++ (rows.map fun r => r.target.newest).map .latest

variable {group : List Expr} {rows : List TimedRows} {q : Query} {cs : List Clause}

/-- **Clauses that want the newest rows of one series shape a query that had no shape.** -/
theorem Series.shape_addAll (h : Series group rows) (hd : q.distinct = []) (ho : q.orderBy = [])
    (hdistincts : cs.flatMap Clause.distincts = rows.flatMap TimedRows.group)
    (hkeys : cs.flatMap Clause.orderKeys = rows.flatMap fun r => r.newest.orderKeys) :
    Shape group rows (q.addAll cs) := by
  constructor
  · rw [Query.distinct_addAll, hdistincts, hd, h.foldl_group]
  · rw [Query.orderBy_addAll, hkeys, ho, h.foldl_orderKeys]

theorem Shape.headed (h : Shape group rows q) (hne : group ≠ []) : q.Headed := by
  refine ⟨rows.map fun r => r.target.newest, ?_, ?_⟩
  · rw [h.orderBy, h.distinct]
    cases rows <;> simp
  · rw [h.distinct]
    cases rows <;> simp [hne]

theorem foldl_addSelect_eq (key : List Expr) (q : Query) : key.foldl Query.addSelect q =
    { q with select := key.foldl (appendNew Expr.text) q.select } := by
  induction key generalizing q with
  | nil =>
    obtain ⟨⟩ := q
    rfl
  | cons e key ih => exact ih (q.addSelect e)

variable {r : TimedRows}

/-- The clauses of the newest rows shape a query that had no shape. -/
theorem Series.shape_clauses (h : Series r.group [r]) (hd : q.distinct = [])
    (ho : q.orderBy = []) : Shape r.group [r] (q.addAll r.newest.clauses) := by
  refine h.shape_addAll hd ho ?_ ?_
  · rw [LatestRows.distincts_clauses, List.flatMap_singleton]
    rfl
  · rw [LatestRows.orderKeys_clauses, List.flatMap_singleton]

/-- **The query of the newest keys selects these keys and has the shape of the newest rows, and
nothing else.** -/
theorem keyQuery_eq (h : Series r.group [r]) (hkey : (r.key.map Expr.text).Nodup) :
    r.newest.keyQuery r.table r.key =
      { table := r.table, select := r.key, distinct := r.group,
        orderBy := r.newest.orderKeys } := by
  have hall : r.key.foldl (appendNew Expr.text) [] = r.key := foldl_appendNew_eq hkey
  have hselect : r.key.foldl Query.addSelect (.ofTable r.table) =
      { table := r.table, select := r.key } := by
    rw [foldl_addSelect_eq]
    exact congrArg (fun key => ({ table := r.table, select := key } : Query)) hall
  have hfields : ∀ q : Query, q =
      ⟨q.table, q.select, q.distinct, q.joins, q.conditions, q.orderBy, q.limit⟩ := by
    rintro ⟨⟩
    rfl
  have hshape : Shape r.group [r]
      (Query.addAll { table := r.table, select := r.key } r.newest.clauses) :=
    h.shape_clauses rfl rfl
  rw [LatestRows.keyQuery, hselect, hfields (Query.addAll _ _), Query.table_addAll,
    Query.select_addAll, hshape.distinct, Query.joins_addAll, Query.conditions_addAll,
    hshape.orderBy, Query.limit_addAll, LatestRows.flatMap_clauses (fun _ => rfl) (fun _ => rfl),
    LatestRows.flatMap_clauses (fun _ => rfl) (fun _ => rfl)]
  rfl

/-- The condition on the newest rows looks for the key among those of the table of the rows, one for
each series, the newest first. -/
theorem newestCondition_eq (h : Series r.group [r]) (hkey : (r.key.map Expr.text).Nodup) :
    r.newestCondition = .inQuery r.key
      { table := r.table, select := r.key, distinct := r.group,
        orderBy := r.group.map .plain ++ [.latest r.target.newest] } :=
  congrArg (Condition.inQuery r.key) (keyQuery_eq h hkey)

/-- **The query of the newest keys is headed.** -/
theorem headed_keyQuery (h : Series r.group [r]) :
    (r.newest.keyQuery r.table r.key).Headed := by
  rw [LatestRows.keyQuery, foldl_addSelect_eq]
  exact (h.shape_clauses rfl rfl).headed h.group_ne_nil

end TimedRows

end ObservationQuery
