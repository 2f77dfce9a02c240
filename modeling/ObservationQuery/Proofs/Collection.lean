import Mathlib.Data.List.Induction
import Mathlib.Data.List.Nodup
import Mathlib.Data.List.Perm.Basic
import ObservationQuery.Proofs.Sql.Calls
import ObservationQuery.Proofs.Sql.Parts

/-!
# What calls leave in a query

A query keeps, of each kind of parts, those that its calls give it, in the order in which they are
first given. Parts of different kinds have nothing to do with one another, so it does not matter how
the calls are interleaved.

* `Fragments` — the parts of a query as texts, by kind; `Query.fragments` are those of a query,
  `Call.given` those that calls give.
* `Fragments.text`, `Fragments.countText` — how the parts are put together.
* `Fragments.Collects` — what is kept of given parts.
* `Fragments.Reordered` — the same parts, those of one kind in another order.

Principal results: `Query.fragments_build` — the parts of a query are collected from those that its
calls give; `Query.build_collects` — what is kept, that the texts depend on nothing else, and what
becomes of calls in another order.
-/

namespace ObservationQuery

/-! ## Lists without repetitions -/

section
variable {α β κ : Type} [DecidableEq κ]

/-- Elements that are told apart by a part of them may be collected as these parts. -/
theorem map_foldl_appendNew (f : α → β) (key : β → κ) (l as : List α) :
    (as.foldl (appendNew (key ∘ f)) l).map f = (as.map f).foldl (appendNew key) (l.map f) := by
  induction as generalizing l with
  | nil => rfl
  | cons a as ih =>
    have hstep : (appendNew (key ∘ f) l a).map f = appendNew key (l.map f) (f a) := by
      unfold appendNew
      rw [List.map_map]
      split
      · rename_i h
        exact (if_pos h).symm
      · rename_i h
        exact List.map_append.trans (if_neg h).symm
    rw [List.foldl_cons, ih, hstep, List.map_cons, List.foldl_cons]

section
variable [BEq κ] [LawfulBEq κ]

/-- To collect what is new is to drop the later ones of equal elements. -/
theorem foldl_appendNew_id (as : List κ) : as.foldl (appendNew id) [] = as.eraseDups := by
  -- The fold takes the elements from the front: the last one is added to what is kept of the rest.
  induction as using List.reverseRecOn with
  | nil => rfl
  | append_singleton as a ih =>
    rw [List.foldl_append, ih, List.foldl_cons, List.foldl_nil, List.eraseDups_append, appendNew,
      List.map_id, id]
    by_cases ha : a ∈ as
    · have hnone : [a].removeAll as = [] := by simp [List.removeAll, ha]
      rw [if_pos (List.mem_eraseDups.mpr ha), hnone, List.eraseDups_nil, List.append_nil]
    · have hone : [a].removeAll as = [a] := by simp [List.removeAll, ha]
      rw [if_neg (mt List.mem_eraseDups.mp ha), hone]
      rfl

theorem map_foldl_appendNew_nil (key : α → κ) (as : List α) :
    (as.foldl (appendNew key) []).map key = (as.map key).eraseDups :=
  (map_foldl_appendNew key id [] as).trans (foldl_appendNew_id _)

theorem nodup_eraseDups (as : List κ) : as.eraseDups.Nodup := by
  have hkeys := @nodup_foldl_appendNew κ κ _ id [] as List.nodup_nil
  rwa [List.map_id, foldl_appendNew_id] at hkeys

theorem perm_eraseDups {as bs : List κ} (h : as.Perm bs) : as.eraseDups.Perm bs.eraseDups :=
  (List.perm_ext_iff_of_nodup (nodup_eraseDups as) (nodup_eraseDups bs)).mpr fun a => by
    rw [List.mem_eraseDups, List.mem_eraseDups, h.mem_iff]

end

/-- Where a key stands more than once, its first value counts, and this is the one that is kept. -/
theorem lookup_foldl_appendNew (k : κ) (l as : List (κ × β)) :
    (as.foldl (appendNew Prod.fst) l).lookup k = (l ++ as).lookup k := by
  induction as generalizing l with
  | nil => rw [List.append_nil, List.foldl_nil]
  | cons a as ih =>
    rw [List.foldl_cons, ih, appendNew]
    split
    · rename_i ha
      have hleft : (l ++ [a]).lookup k = l.lookup k := by
        rw [List.lookup_append]
        by_cases hk : k = a.1
        · obtain ⟨p, hp, hpa⟩ := List.mem_map.mp ha
          have hsome : (l.lookup k).isSome :=
            List.lookup_isSome_iff.mpr ⟨p, hp, by rw [hk, hpa, beq_self_eq_true]⟩
          exact Option.or_of_isSome hsome
        · have hnone : [a].lookup k = none :=
            List.lookup_eq_none_iff.mpr fun p hp => by
              rw [List.mem_singleton.mp hp]
              exact bne_iff_ne.mpr hk
          rw [hnone, Option.or_none]
      rw [List.append_cons, List.lookup_append, List.lookup_append, hleft]
    · rw [List.append_assoc, List.singleton_append]

/-- If all values of a key are equal, the pairs that are kept are those that were given. -/
theorem mem_foldl_appendNew_iff {as : List (κ × β)}
    (h : ∀ p ∈ as, ∀ r ∈ as, p.1 = r.1 → p = r) {p : κ × β} :
    p ∈ as.foldl (appendNew Prod.fst) [] ↔ p ∈ as := by
  have hsub : ∀ r, r ∈ as.foldl (appendNew Prod.fst) [] → r ∈ as :=
    fun r hr => (mem_foldl_appendNew hr).resolve_left List.not_mem_nil
  refine ⟨hsub p, fun hp => ?_⟩
  have hkey : p.1 ∈ (as.foldl (appendNew Prod.fst) []).map Prod.fst := key_mem_foldl_appendNew hp
  obtain ⟨r, hr, hrp⟩ := List.mem_map.mp hkey
  rw [h p hp r (hsub r hr) hrp.symm]
  exact hr

theorem perm_foldl_appendNew {as bs : List (κ × β)} (h : as.Perm bs)
    (hvalue : ∀ p ∈ as, ∀ r ∈ as, p.1 = r.1 → p = r) :
    (as.foldl (appendNew Prod.fst) []).Perm (bs.foldl (appendNew Prod.fst) []) := by
  have hother : ∀ p ∈ bs, ∀ r ∈ bs, p.1 = r.1 → p = r :=
    fun p hp r hr => hvalue p (h.mem_iff.mpr hp) r (h.mem_iff.mpr hr)
  have hnodup : ∀ l : List (κ × β), (l.foldl (appendNew Prod.fst) []).Nodup :=
    fun l => (nodup_foldl_appendNew (by simp)).of_map
  refine (List.perm_ext_iff_of_nodup (hnodup as) (hnodup bs)).mpr fun p => ?_
  rw [mem_foldl_appendNew_iff hvalue, mem_foldl_appendNew_iff hother, h.mem_iff]

end

/-! ## Parts as texts -/

/-- The parts of a query as texts, by kind. -/
structure Fragments where
  select : List String
  distinct : List String
  /-- Each joined table with the predicate of the join. -/
  joins : List (String × String)
  conditions : List String
  orderBy : List (String × Option Direction)
  limits : List UInt64

/-- The table of a join and its predicate. -/
def Join.fragment (j : Join) : String × String := (j.table, j.on.text)

/-- The parts of a query. -/
def Query.fragments (q : Query) : Fragments where
  select := q.select.map Expr.text
  distinct := q.distinct.map Expr.text
  joins := q.joins.map Join.fragment
  conditions := q.conditions.map Condition.text
  orderBy := q.orderBy.map OrderKey.key
  limits := q.limit.toList

/-- All that calls give to a query over the table `root`, in the order in which it is given. -/
def Query.Call.given (root : String) (calls : List Query.Call) : Fragments :=
  let clauses := calls.flatMap (clauses root)
  { select := (calls.flatMap exprs).map Expr.text
    distinct := (clauses.flatMap Clause.distincts).map Expr.text
    joins := (clauses.flatMap Clause.joins).map Join.fragment
    conditions := (clauses.flatMap Clause.conditions).map Condition.text
    orderBy := (clauses.flatMap Clause.orderKeys).map OrderKey.key
    limits := calls.flatMap limits }

namespace Fragments

/-- Texts with a separator between them, after an opening and before an ending, if there are
any. -/
def listed (opening separator ending : String) (parts : List String) : String :=
  if parts = [] then "" else opening ++ separator.intercalate parts ++ ending

/-- An order key with its direction. -/
def keyText (key : String × Option Direction) : String :=
  key.1 ++
    match key.2 with
    | none => ""
    | some .ascending => " ASC"
    | some .descending => " DESC"

/-- The table, the joined tables and the conditions. -/
def source (f : Fragments) (root : String) : String :=
  "FROM " ++ root ++ String.join (f.joins.map fun j => " INNER JOIN " ++ j.1 ++ " ON " ++ j.2) ++
    listed " WHERE " " AND " "" f.conditions

/-- The text of the query with these parts over the table `root`. -/
def text (f : Fragments) (root : String) : String :=
  "SELECT " ++
    (listed "DISTINCT ON (" ", " ") " f.distinct ++
      if f.select = [] then root ++ ".*" else ", ".intercalate f.select) ++ " " ++ f.source root ++
    listed " ORDER BY " ", " "" (f.orderBy.map keyText) ++
    String.join (f.limits.map fun n => " LIMIT " ++ n.toNat.repr)

/-- The text of the query that counts the rows. -/
def countText (f : Fragments) (root : String) : String :=
  "SELECT COUNT(*) " ++
    if f.distinct = [] then f.source root
    else "FROM (" ++ { f with limits := [] }.text root ++ ") AS counted"

end Fragments

namespace Query

variable (q : Query)

theorem fromText_eq_source : q.fromText = q.fragments.source q.table := by
  have hjoins : q.joins.map Join.text =
      q.fragments.joins.map fun j => " INNER JOIN " ++ j.1 ++ " ON " ++ j.2 := by
    rw [fragments, List.map_map]
    rfl
  rw [fromText, hjoins, Fragments.source, Fragments.listed]
  simp only [fragments, List.map_eq_nil_iff, String.append_empty]

/-- **The text of a query is that of its parts.** -/
theorem text_eq_fragments : q.text = q.fragments.text q.table := by
  have hkeys : q.orderBy.map OrderKey.text = q.fragments.orderBy.map Fragments.keyText := by
    rw [fragments, List.map_map]
    rfl
  have horder : q.orderText =
      Fragments.listed " ORDER BY " ", " "" (q.fragments.orderBy.map Fragments.keyText) := by
    rw [orderText, ← hkeys, Fragments.listed]
    simp only [List.map_eq_nil_iff, String.append_empty]
  have hselect : q.selectText = Fragments.listed "DISTINCT ON (" ", " ") " q.fragments.distinct ++
      if q.fragments.select = [] then q.table ++ ".*" else ", ".intercalate q.fragments.select := by
    rw [selectText, Fragments.listed]
    simp only [fragments, List.map_eq_nil_iff]
  have hlimit : q.limitText =
      String.join (q.fragments.limits.map fun n => " LIMIT " ++ n.toNat.repr) := by
    rw [limitText, fragments]
    cases q.limit with
    | none => rfl
    | some n => exact String.empty_append.symm
  rw [text_eq_parts, hselect, fromText_eq_source, horder, hlimit, Fragments.text]

/-- The text that counts the rows is that of the parts too. -/
theorem countText_eq_fragments : q.countText = q.fragments.countText q.table := by
  have hdistinct : q.fragments.distinct = [] ↔ q.distinct = [] := List.map_eq_nil_iff
  rw [countText, countTokens, TokenStream.text_append, Fragments.countText]
  by_cases h : q.distinct = []
  · rw [if_pos h, if_pos (hdistinct.mpr h), text_sourceTokens, fromText_eq_source]
    rfl
  · have hinner : TokenStream.text { q with limit := none }.tokens =
        { q.fragments with limits := [] }.text q.table :=
      text_eq_fragments { q with limit := none }
    rw [if_neg h, if_neg (mt hdistinct.mp h), TokenStream.text_append, TokenStream.text_append,
      hinner]
    rfl

end Query

/-! ## What is kept -/

namespace Fragments

/-- What is kept of given parts: those that are not given before, of each table the predicate that
is given first, and the limit that is given last. -/
structure Collects (kept given : Fragments) : Prop where
  select : kept.select = given.select.eraseDups
  distinct : kept.distinct = given.distinct.eraseDups
  conditions : kept.conditions = given.conditions.eraseDups
  orderBy : kept.orderBy = given.orderBy.eraseDups
  tables : kept.joins.map Prod.fst = (given.joins.map Prod.fst).eraseDups
  predicate : ∀ table, kept.joins.lookup table = given.joins.lookup table
  limits : kept.limits = given.limits.getLast?.toList

/-- The parts that are kept of given ones. -/
def collected (given : Fragments) : Fragments where
  select := given.select.eraseDups
  distinct := given.distinct.eraseDups
  joins := given.joins.foldl (appendNew Prod.fst) []
  conditions := given.conditions.eraseDups
  orderBy := given.orderBy.eraseDups
  limits := given.limits.getLast?.toList

theorem collects_collected (given : Fragments) : given.collected.Collects given where
  select := rfl
  distinct := rfl
  conditions := rfl
  orderBy := rfl
  tables := map_foldl_appendNew_nil Prod.fst given.joins
  predicate table := lookup_foldl_appendNew table [] given.joins
  limits := rfl

/-- The kinds of parts of which the order in which they are given does not matter. -/
inductive Kind where
  | select
  | distinct
  | joins
  | conditions

/-- The same parts, but those of one kind in another order. -/
inductive Reordered : Kind → Fragments → Fragments → Prop
  | select {f : Fragments} {l : List String} (h : f.select.Perm l) :
    Reordered .select f { f with select := l }
  | distinct {f : Fragments} {l : List String} (h : f.distinct.Perm l) :
    Reordered .distinct f { f with distinct := l }
  | joins {f : Fragments} {l : List (String × String)} (h : f.joins.Perm l) :
    Reordered .joins f { f with joins := l }
  | conditions {f : Fragments} {l : List String} (h : f.conditions.Perm l) :
    Reordered .conditions f { f with conditions := l }

/-- No table is given two predicates. -/
def OnePredicate (f : Fragments) : Prop := ∀ j ∈ f.joins, ∀ k ∈ f.joins, j.1 = k.1 → j = k

/-- Given parts in another order are kept in another order. -/
theorem Reordered.collected {kind : Kind} {given other : Fragments}
    (hone : kind = .joins → given.OnePredicate) (h : Reordered kind given other) :
    Reordered kind given.collected other.collected := by
  cases h with
  | select h => exact .select (perm_eraseDups h)
  | distinct h => exact .distinct (perm_eraseDups h)
  | joins h => exact .joins (perm_foldl_appendNew h (hone rfl))
  | conditions h => exact .conditions (perm_eraseDups h)

end Fragments

namespace Query

/-- Of several limits the last one remains. -/
theorem foldl_limit (limits : List UInt64) :
    limits.foldl (fun _ n => some n) none = limits.getLast? := by
  induction limits using List.reverseRecOn with
  | nil => rfl
  | append_singleton limits n =>
    rw [List.foldl_append, List.getLast?_append, List.getLast?_singleton]
    rfl

/-- **The parts of a query are collected from those that its calls give.** -/
theorem fragments_build (table : String) (calls : List Call) :
    (build table calls).fragments = (Call.given table calls).collected := by
  have hkeys : Join.table = Prod.fst ∘ Join.fragment := rfl
  rw [build, callAll_eq, fragments, present, joins_addAll, conditions_addAll, distinct_addAll,
    orderBy_addAll, hkeys]
  simp only [ofTable, map_foldl_appendNew_nil, map_foldl_appendNew, foldl_limit, List.map_nil]
  rfl

/-- A table is joined as soon as a join of it is given. -/
theorem hasJoin_build (table : String) (calls : List Call) (t : String) :
    (build table calls).hasJoin t = true ↔ t ∈ (Call.given table calls).joins.map Prod.fst := by
  have htables : (build table calls).joins.map Join.table =
      ((Call.given table calls).joins.map Prod.fst).eraseDups := by
    rw [← (Call.given table calls).collects_collected.tables, ← fragments_build, fragments,
      List.map_map]
    rfl
  rw [← List.mem_eraseDups, ← htables, hasJoin, List.any_eq_true, List.mem_map]
  simp only [beq_iff_eq]

theorem table_build (table : String) (calls : List Call) : (build table calls).table = table := by
  rw [build, callAll_eq, table_present, table_addAll]
  rfl

/-- **However parts are added to a fresh query, it keeps of the selected expressions, the distinct
expressions, the conditions and the order keys those that were not added before, in order; of each
table the predicate that was added first; and the last limit. A table is joined exactly if a join of
it was added. Both texts are put together from what is kept, so calls that are only interleaved
otherwise give the same texts, and to add the parts of one kind in another order changes the order
of these parts only — as for joins, if no table is given two predicates.** -/
theorem build_collects (table : String) (calls : List Call) :
    let q := build table calls
    let given := Call.given table calls
    q.fragments.Collects given ∧
      (∀ t, q.hasJoin t = true ↔ t ∈ given.joins.map Prod.fst) ∧
      q.text = q.fragments.text table ∧ q.countText = q.fragments.countText table ∧
      (∀ others, Call.given table others = given →
        (build table others).text = q.text ∧ (build table others).countText = q.countText) ∧
      ∀ kind others, (kind = .joins → given.OnePredicate) →
        given.Reordered kind (Call.given table others) →
        q.fragments.Reordered kind (build table others).fragments := by
  intro q given
  have htext : ∀ calls, (build table calls).text = (Call.given table calls).collected.text table :=
    fun calls => by rw [text_eq_fragments, fragments_build, table_build]
  have hcount : ∀ calls, (build table calls).countText =
      (Call.given table calls).collected.countText table :=
    fun calls => by rw [countText_eq_fragments, fragments_build, table_build]
  have hkept : q.fragments = given.collected := fragments_build table calls
  refine ⟨?_, hasJoin_build table calls, ?_, ?_, ?_, ?_⟩
  · rw [hkept]
    exact given.collects_collected
  · rw [hkept]
    exact htext calls
  · rw [hkept]
    exact hcount calls
  · intro others hsame
    rw [htext, hcount, hsame]
    exact ⟨(htext calls).symm, (hcount calls).symm⟩
  · intro kind others hone hothers
    rw [hkept, fragments_build]
    exact hothers.collected hone

/-- Two joins in the other order are two fragments in the other order. -/
theorem build_collects_swapped :
    let streams := Call.add (.join ⟨"streams", .fragment "obs.stream = streams.id"⟩)
    let features := Call.add (.join ⟨"features", .fragment "obs.foi = features.id"⟩)
    (build "obs" [streams, features]).fragments.Reordered .joins
      (build "obs" [features, streams]).fragments := by
  intro streams features
  have hone : (Call.given "obs" [streams, features]).OnePredicate := by
    unfold Fragments.OnePredicate
    decide
  have hswapped : (Call.given "obs" [streams, features]).Reordered .joins
      (Call.given "obs" [features, streams]) :=
    .joins (List.Perm.swap _ _ [])
  exact (build_collects "obs" [streams, features]).2.2.2.2.2 .joins [features, streams]
    (fun _ => hone) hswapped

end Query

end ObservationQuery
