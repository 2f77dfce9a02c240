import Mathlib.Data.List.Nodup
import Mathlib.Data.List.Perm.Subperm
import ObservationQuery.Proofs.Sql.Clauses

/-!
# What queries return

A query matches the rows of its table with those of the joined tables, keeps the matches of which
its conditions are true, takes one for each value of its distinct expressions if there are any, and
returns at most as many as its limit says.

* `Database` — the rows of each table, and what the database computes from them.
* `Match` — a row for each table of a query; `Database.source` — the matches of joined tables.
* `Condition.holds`, `Query.answers` — when a condition is true of a match, and what a query
  returns.
* `Query.matches`, `Query.count` — the matches of a query, and the number that it counts.
* `Database.KeyedBy` — no two rows of a table have the same key.

Principal results: `Database.nodup_source` — no match comes twice; `Database.Tells.foldl_extend` —
where every table is joined by its key, a row of the first table has one match at most;
`Database.Tells.same_id_of_extend` — where it is joined by an identifier that is no key, the matches
of this row differ in rows with one identifier; `Query.answers_subperm` — a query returns some of
its matches.
-/

namespace ObservationQuery

/-- The table of whose row an expression is computed, if it is one. -/
def Expr.source? : Expr → Option String
  | fragment _ => none
  | column table _ => some table
  | documentText table _ => some table
  | group e => e.source?
  | cast e _ => e.source?

/-- A row for each of some tables. -/
abbrev Match (Row : Type) := List (String × Row)

/-- What is in a database. A null is `none`. -/
structure Database (Row Value : Type) where
  rows : String → List Row
  /-- Rows are told apart even if their columns agree. -/
  nodup_rows : ∀ table, (rows table).Nodup
  column : Row → String → Option Value
  /-- The text at a path in the document of a row. -/
  document : Row → List PathStep → Option Value
  cast : SqlType → Value → Option Value
  /-- The value of SQL that is given as text. -/
  fragment : String → Match Row → Option Value
  /-- Whether a predicate is true, given the values of expressions. -/
  test : Predicate → (Expr → Option Value) → Bool
  /-- The order in which matches come, which the order keys need not decide. -/
  order : List OrderKey → List (Match Row) → List (Match Row)
  order_perm : ∀ keys ms, (order keys ms).Perm ms

variable {Row Value : Type} [DecidableEq Value]

namespace Database

variable (db : Database Row Value)

/-! ## Values -/

/-- The value of an expression. -/
def value (m : Match Row) : Expr → Option Value
  | .fragment sql => db.fragment sql m
  | .column table name => (m.lookup table).bind (db.column · name)
  | .documentText table path => (m.lookup table).bind (db.document · path)
  | .group e => value m e
  | .cast e type => (value m e).bind (db.cast type)

/-- Two keys are the same: all their values are, and none is null. -/
def sameKey (key other : List (Option Value)) : Bool := key.all Option.isSome && key == other

/-- A predicate is true. Nulls are never equal. -/
def holds (m : Match Row) : Predicate → Bool
  | .equal left right => sameKey [db.value m left] [db.value m right]
  | .isNull e => (db.value m e).isNone
  | p => db.test p (db.value m)

/-! ## Joined tables -/

/-- Matches extended by the rows of a joined table. -/
def extend (ms : List (Match Row)) (j : Join) : List (Match Row) :=
  ms.flatMap fun m =>
    ((db.rows j.table).map fun r => m ++ [(j.table, r)]).filter fun m => db.holds m j.on

/-- The matches of a table with joined tables. -/
def source (table : String) (joins : List Join) : List (Match Row) :=
  joins.foldl db.extend ((db.rows table).map fun r => [(table, r)])

end Database

/-! ## Queries -/

/-- At most `limit` elements. -/
def atMost {α : Type} (limit : Option UInt64) (l : List α) : List α :=
  limit.elim l fun n => l.take n.toNat

/-- The first of some matches for each value of the expressions, if there are any. -/
def Database.oneForEach (db : Database Row Value) (distinct : List Expr) (ms : List (Match Row)) :
    List (Match Row) :=
  if distinct = [] then ms
  else ms.foldl (appendNew fun m => distinct.map (db.value m)) []

mutual

/-- A condition is true of a match. -/
def Condition.holds (db : Database Row Value) : Condition → Match Row → Bool
  | .anyOf first others, m => (first :: others).any (db.holds m)
  | .inQuery key query, m => (query.answers db).any fun answer =>
    Database.sameKey (key.map (db.value m)) (query.select.map (db.value answer))

/-- All conditions are true of a match. -/
def Condition.allHold (db : Database Row Value) : List Condition → Match Row → Bool
  | [], _ => true
  | condition :: conditions, m => condition.holds db m && Condition.allHold db conditions m

/-- The matches that a query returns. -/
def Query.answers (db : Database Row Value) : Query → List (Match Row)
  | ⟨table, _, distinct, joins, conditions, orderBy, limit⟩ =>
    atMost limit (db.oneForEach distinct
      (db.order orderBy ((db.source table joins).filter (Condition.allHold db conditions))))

end

namespace Query

variable (db : Database Row Value) (q : Query)

/-- The matches of which the conditions of a query are true. -/
def kept : List (Match Row) :=
  (db.source q.table q.joins).filter (Condition.allHold db q.conditions)

/-- The number that the counting form of a query gives: without the limit. -/
def count : Nat := (db.oneForEach q.distinct (db.order q.orderBy (q.kept db))).length

end Query

/-! ## Matches of joined tables -/

namespace Database

/-- No two rows of a table have the same key. -/
def KeyedBy (db : Database Row Value) (table : String) (key : List Expr) : Prop :=
  ∀ r ∈ db.rows table, ∀ s ∈ db.rows table,
    sameKey (key.map (db.value [(table, r)])) (key.map (db.value [(table, s)])) = true → r = s

instance [DecidableEq Row] (db : Database Row Value) (table : String) (key : List Expr) :
    Decidable (db.KeyedBy table key) :=
  inferInstanceAs (Decidable (∀ r ∈ db.rows table, ∀ s ∈ db.rows table,
    sameKey (key.map (db.value [(table, r)])) (key.map (db.value [(table, s)])) = true → r = s))

/-- A table is joined by its identifier, with the value of an expression on a table in `scope`. -/
def LooksUp (scope : List String) (j : Join) : Prop :=
  ∃ left : Expr, j.on = .equal left (.column j.table "id") ∧ ∃ t ∈ scope, left.source? = some t

/-- Each table is joined by its identifier, with a value of the tables before it. -/
def LooksUpEach (scope : List String) : List Join → Prop
  | [] => True
  | j :: joins => LooksUp scope j ∧ LooksUpEach (scope ++ [j.table]) joins

/-- No match comes twice, each has a row of every table in `scope` in this order, and its row of
the table `root` tells it from others. -/
structure Tells (db : Database Row Value) (root : String) (scope : List String)
    (ms : List (Match Row)) : Prop where
  nodup : ms.Nodup
  tables : ∀ m ∈ ms, m.map Prod.fst = scope
  unique : ∀ m ∈ ms, ∀ n ∈ ms, m.lookup root = n.lookup root → m = n

variable {db : Database Row Value} {scope : List String} {ms : List (Match Row)} {j : Join}
  {m n : Match Row} {root : String}

theorem lookup_append_of_mem {table : String} {more : Match Row} (h : table ∈ m.map Prod.fst) :
    (m ++ more).lookup table = m.lookup table := by
  have hsome : (m.lookup table).isSome := by
    obtain ⟨p, hp, rfl⟩ := List.mem_map.mp h
    exact List.lookup_isSome_iff.mpr ⟨p, hp, beq_self_eq_true _⟩
  rw [List.lookup_append, Option.or_of_isSome hsome]

theorem lookup_concat_self {table : String} {r : Row} (h : table ∉ m.map Prod.fst) :
    (m ++ [(table, r)]).lookup table = some r := by
  have hnone : m.lookup table = none := by
    refine List.lookup_eq_none_iff.mpr fun p hp => bne_iff_ne.mpr ?_
    rintro rfl
    exact h (List.mem_map_of_mem hp)
  rw [List.lookup_append, hnone, Option.none_or, List.lookup_cons_self]

omit [DecidableEq Value] in
/-- The value of an expression depends on the row of its table only. -/
theorem value_congr {e : Expr} {table : String} (he : e.source? = some table)
    (h : m.lookup table = n.lookup table) : db.value m e = db.value n e := by
  induction e with
  | fragment => cases he
  | column | documentText =>
    cases he
    rw [value, value, h]
  | group e ih => exact ih he
  | cast e type ih => rw [value, value, ih he]

omit [DecidableEq Value] in
/-- A key of a row is that of every match with this row. -/
theorem map_value_of_lookup {key : List Expr} {table : String} {r : Row}
    (hkey : ∀ e ∈ key, e.source? = some table) (h : m.lookup table = some r) :
    key.map (db.value m) = key.map (db.value [(table, r)]) :=
  List.map_congr_left fun e he => value_congr (hkey e he) (h.trans List.lookup_cons_self.symm)

theorem sameKey_iff {key other : List (Option Value)} :
    sameKey key other = true ↔ (∀ v ∈ key, v.isSome) ∧ key = other := by
  simp [sameKey]

theorem mem_extend : m ∈ db.extend ms j ↔
    ∃ n ∈ ms, ∃ r ∈ db.rows j.table, m = n ++ [(j.table, r)] ∧ db.holds m j.on = true := by
  simp only [extend, List.mem_flatMap, List.mem_filter, List.mem_map]
  constructor
  · rintro ⟨n, hn, ⟨r, hr, rfl⟩, hon⟩
    exact ⟨n, hn, r, hr, rfl, hon⟩
  · rintro ⟨n, hn, r, hr, rfl, hon⟩
    exact ⟨n, hn, ⟨r, hr, rfl⟩, hon⟩

theorem nodup_extend (h : ms.Nodup) : (db.extend ms j).Nodup := by
  refine List.nodup_flatMap.mpr ⟨fun m _ => ?_, ?_⟩
  · refine ((db.nodup_rows j.table).map fun r s hrs => ?_).filter _
    simpa using hrs
  · refine h.imp fun {m n} hne => ?_
    intro k hk hk'
    obtain ⟨r, -, rfl⟩ := List.mem_map.mp (List.mem_filter.mp hk).1
    obtain ⟨s, -, heq⟩ := List.mem_map.mp (List.mem_filter.mp hk').1
    exact hne (List.append_inj_left' heq rfl).symm

/-- Two extensions of matches that a row of `root` tells apart, with the same row of it, extend one
match, by rows with the same identifier. -/
theorem Tells.same_id_of_extend (h : db.Tells root scope ms) (hj : LooksUp scope j)
    (hroot : root ∈ scope) (hfresh : j.table ∉ scope) (hm : m ∈ db.extend ms j)
    (hn : n ∈ db.extend ms j) (hmn : m.lookup root = n.lookup root) :
    ∃ k ∈ ms, ∃ r ∈ db.rows j.table, ∃ s ∈ db.rows j.table,
      m = k ++ [(j.table, r)] ∧ n = k ++ [(j.table, s)] ∧
        sameKey [db.value [(j.table, r)] (.column j.table "id")]
          [db.value [(j.table, s)] (.column j.table "id")] = true := by
  obtain ⟨k, hk, r, hr, rfl, hon⟩ := mem_extend.mp hm
  obtain ⟨l, hl, s, hs, rfl, hon'⟩ := mem_extend.mp hn
  have hkl : k = l := by
    refine h.unique k hk l hl ?_
    rwa [lookup_append_of_mem (by rwa [h.tables k hk]),
      lookup_append_of_mem (by rwa [h.tables l hl])] at hmn
  subst hkl
  refine ⟨k, hk, r, hr, s, hs, rfl, rfl, ?_⟩
  obtain ⟨left, hleft, table, htable, hsource⟩ := hj
  have hvalue : ∀ t : Row, db.holds (k ++ [(j.table, t)]) j.on =
      sameKey [db.value k left] [db.value [(j.table, t)] (.column j.table "id")] := by
    intro t
    have hleft' : db.value (k ++ [(j.table, t)]) left = db.value k left :=
      value_congr hsource (lookup_append_of_mem (by rwa [h.tables k hk]))
    have hid : db.value (k ++ [(j.table, t)]) (.column j.table "id") =
        db.value [(j.table, t)] (.column j.table "id") := by
      refine value_congr rfl ?_
      rw [lookup_concat_self (by rwa [h.tables k hk])]
      exact (List.lookup_cons_self).symm
    rw [hleft, holds, hleft', hid]
  -- Both rows have the identifier that `k` asks for.
  rw [hvalue, sameKey_iff] at hon hon'
  rw [← hon.2, ← hon'.2, sameKey_iff]
  exact ⟨hon.1, rfl⟩

/-- A table that is joined by its key adds at most one row to a match. -/
theorem Tells.extend (h : db.Tells root scope ms) (hj : LooksUp scope j)
    (hkey : db.KeyedBy j.table [.column j.table "id"]) (hroot : root ∈ scope)
    (hfresh : j.table ∉ scope) : db.Tells root (scope ++ [j.table]) (db.extend ms j) := by
  refine ⟨nodup_extend h.nodup, fun m hm => ?_, fun m hm n hn hmn => ?_⟩
  · obtain ⟨k, hk, r, -, rfl, -⟩ := mem_extend.mp hm
    rw [List.map_append, h.tables k hk]
    rfl
  · obtain ⟨k, -, r, hr, s, hs, rfl, rfl, hid⟩ := h.same_id_of_extend hj hroot hfresh hm hn hmn
    rw [hkey r hr s hs hid]

/-- Where every table is joined by its key, a row of the first table has at most one match. -/
theorem Tells.foldl_extend (h : db.Tells root scope ms) {joins : List Join}
    (hj : LooksUpEach scope joins)
    (hkey : ∀ j ∈ joins, db.KeyedBy j.table [.column j.table "id"]) (hroot : root ∈ scope)
    (hnodup : (scope ++ joins.map Join.table).Nodup) :
    db.Tells root (scope ++ joins.map Join.table) (joins.foldl db.extend ms) := by
  induction joins generalizing scope ms with
  | nil =>
    rw [List.map_nil, List.append_nil]
    exact h
  | cons j joins ih =>
    obtain ⟨hjoin, hrest⟩ := hj
    have hfresh : j.table ∉ scope := fun hmem =>
      List.disjoint_of_nodup_append hnodup hmem List.mem_cons_self
    rw [List.map_cons, List.append_cons] at hnodup ⊢
    exact ih (h.extend hjoin (hkey j List.mem_cons_self) hroot hfresh) hrest
      (fun i hi => hkey i (List.mem_cons_of_mem j hi)) (List.mem_append_left _ hroot) hnodup

omit [DecidableEq Value] in
/-- The rows of a table, before others are joined. -/
theorem tells_rows (db : Database Row Value) (table : String) :
    db.Tells table [table] ((db.rows table).map fun r => [(table, r)]) := by
  refine ⟨(db.nodup_rows table).map fun r s h => ?_, fun m hm => ?_, fun m hm n hn h => ?_⟩
  · simpa using h
  · obtain ⟨r, -, rfl⟩ := List.mem_map.mp hm
    rfl
  · obtain ⟨r, -, rfl⟩ := List.mem_map.mp hm
    obtain ⟨s, -, rfl⟩ := List.mem_map.mp hn
    simpa using h

/-- What every extension keeps is so of the matches of joined tables. -/
theorem source_induction {P : List (Match Row) → Prop} {table : String} {joins : List Join}
    (hrows : P ((db.rows table).map fun r => [(table, r)]))
    (hextend : ∀ ms j, P ms → P (db.extend ms j)) : P (db.source table joins) := by
  unfold source
  generalize (db.rows table).map (fun r => [(table, r)]) = ms at hrows ⊢
  induction joins generalizing ms with
  | nil => exact hrows
  | cons j joins ih => exact ih _ (hextend ms j hrows)

/-- No match comes twice. -/
theorem nodup_source (db : Database Row Value) (table : String) (joins : List Join) :
    (db.source table joins).Nodup :=
  source_induction (tells_rows db table).nodup fun _ _ => nodup_extend

/-- Each match has a row of the first table. -/
theorem exists_row_of_mem_source {table : String} {joins : List Join} :
    ∀ m ∈ db.source table joins, ∃ r ∈ db.rows table, m.lookup table = some r := by
  refine source_induction (P := fun ms => ∀ m ∈ ms, ∃ r ∈ db.rows table, m.lookup table = some r)
    (fun m hm => ?_) fun ms j h m hm => ?_
  · obtain ⟨r, hr, rfl⟩ := List.mem_map.mp hm
    exact ⟨r, hr, List.lookup_cons_self⟩
  · obtain ⟨n, hn, s, -, rfl, -⟩ := mem_extend.mp hm
    obtain ⟨r, hr, hlookup⟩ := h n hn
    exact ⟨r, hr, by rw [List.lookup_append, hlookup, Option.some_or]⟩

end Database

/-! ## What queries return -/

theorem Condition.allHold_iff {db : Database Row Value} {cs : List Condition} {m : Match Row} :
    allHold db cs m = true ↔ ∀ c ∈ cs, c.holds db m = true := by
  induction cs with
  | nil => simp [allHold]
  | cons c cs ih => rw [allHold, Bool.and_eq_true, ih, List.forall_mem_cons]

theorem atMost_sublist {α : Type} (limit : Option UInt64) (l : List α) :
    (atMost limit l).Sublist l := by
  cases limit with
  | none => exact List.Sublist.refl l
  | some n => exact List.take_sublist _ l

/-- Collecting what is new takes some elements of a list, in order. -/
theorem exists_foldl_appendNew {α κ : Type} [DecidableEq κ] (key : α → κ) (as : List α) :
    ∀ l : List α, ∃ bs, bs.Sublist as ∧ as.foldl (appendNew key) l = l ++ bs := by
  induction as with
  | nil => exact fun l => ⟨[], List.Sublist.refl _, (List.append_nil l).symm⟩
  | cons a as ih =>
    intro l
    rw [List.foldl_cons]
    obtain ⟨bs, hbs, heq⟩ := ih (appendNew key l a)
    rw [heq]
    unfold appendNew
    split
    · exact ⟨bs, hbs.cons a, rfl⟩
    · exact ⟨a :: bs, hbs.cons_cons a, List.append_assoc l [a] bs⟩

theorem Database.oneForEach_sublist (db : Database Row Value) (distinct : List Expr)
    (ms : List (Match Row)) : (db.oneForEach distinct ms).Sublist ms := by
  unfold oneForEach
  split
  · exact List.Sublist.refl ms
  · obtain ⟨bs, hbs, heq⟩ := exists_foldl_appendNew (fun m => distinct.map (db.value m)) ms []
    rw [heq, List.nil_append]
    exact hbs

namespace Query

variable (db : Database Row Value) (q : Query)

theorem answers_eq : q.answers db =
    atMost q.limit (db.oneForEach q.distinct (db.order q.orderBy (q.kept db))) := by
  obtain ⟨⟩ := q
  rw [answers]
  rfl

variable {db q}

theorem mem_kept {m : Match Row} : m ∈ q.kept db ↔
    m ∈ db.source q.table q.joins ∧ ∀ c ∈ q.conditions, c.holds db m = true := by
  rw [kept, List.mem_filter, Condition.allHold_iff]

/-- A query returns some of the matches that it keeps, in some order. -/
theorem answers_subperm : (q.answers db).Subperm (q.kept db) := by
  rw [answers_eq]
  exact ((atMost_sublist _ _).trans (db.oneForEach_sublist _ _)).subperm.trans
    (db.order_perm _ _).subperm

/-- Without distinct expressions the counting form counts the matches. -/
theorem count_eq (h : q.distinct = []) : q.count db = (q.kept db).length := by
  rw [count, Database.oneForEach, if_pos h, (db.order_perm _ _).length_eq]

/-- With distinct expressions, what a query returns is told apart by their values. -/
theorem nodup_answers (h : q.distinct ≠ []) :
    ((q.answers db).map fun m => q.distinct.map (db.value m)).Nodup := by
  have hnone : (([] : List (Match Row)).map fun m => q.distinct.map (db.value m)).Nodup :=
    List.nodup_nil
  rw [answers_eq, Database.oneForEach, if_neg h]
  exact (nodup_foldl_appendNew hnone).sublist ((atMost_sublist _ _).map _)

end Query

end ObservationQuery
