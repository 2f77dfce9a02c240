import ObservationQuery.Proofs.Sql.Clauses

/-!
# Merging queries

Clauses that are added to a query leave what they leave in a fresh query over the same table, apart
from what the query has already.

* `mergeNew` — a list with the elements of another whose key it has not.
* `Query.merge` — a query with the parts of another that it has not.
* `Query.Extends` — a query has all that another has, in the same order.
* `Query.SameParts` — two queries have the same parts, in whatever order.

Principal results: `Query.addAll_eq_merge` — adding clauses is a merge; `Query.merge_merge_self`,
`Query.merge_extends`, `Query.merge_merge_sameParts` — a second merge changes nothing, a merge takes
nothing away, and the order of two merges does not decide which parts there are.
-/

namespace ObservationQuery

/-! ## Lists -/

section
variable {α κ : Type} [DecidableEq κ] {key : α → κ} {l m n : List α} {a : α} {k : κ}

/-- The list with the elements of another whose key it has not. -/
def mergeNew (key : α → κ) (l m : List α) : List α := l ++ m.filter fun a => key a ∉ l.map key

@[simp] theorem mergeNew_nil (key : α → κ) (l : List α) : mergeNew key l [] = l :=
  List.append_nil l

theorem prefix_mergeNew (key : α → κ) (l m : List α) : l <+: mergeNew key l m :=
  List.prefix_append l _

/-- A merged list has the keys of both lists. -/
@[simp] theorem mem_map_mergeNew :
    k ∈ (mergeNew key l m).map key ↔ k ∈ l.map key ∨ k ∈ m.map key := by
  rw [mergeNew, List.map_append, List.mem_append]
  constructor
  · rintro (hk | hk)
    · exact .inl hk
    · exact .inr (List.map_subset key List.filter_sublist.subset hk)
  · rintro (hk | hk)
    · exact .inl hk
    · by_cases hl : k ∈ l.map key
      · exact .inl hl
      · obtain ⟨a, ha, rfl⟩ := List.mem_map.mp hk
        exact .inr (List.mem_map_of_mem (List.mem_filter.mpr ⟨ha, decide_eq_true hl⟩))

/-- A list whose keys are all there adds nothing. -/
theorem mergeNew_eq_self (h : ∀ a ∈ m, key a ∈ l.map key) : mergeNew key l m = l := by
  have hnone : (m.filter fun a => key a ∉ l.map key) = [] :=
    List.filter_eq_nil_iff.mpr fun a ha => by simpa using h a ha
  rw [mergeNew, hnone, List.append_nil]

theorem mergeNew_mergeNew_self (key : α → κ) (l m : List α) :
    mergeNew key (mergeNew key l m) m = mergeNew key l m :=
  mergeNew_eq_self fun _ ha => mem_map_mergeNew.mpr (.inr (List.mem_map_of_mem ha))

theorem mergeNew_concat (key : α → κ) (l m : List α) (a : α) : mergeNew key l (m ++ [a]) =
    if key a ∈ l.map key then mergeNew key l m else mergeNew key l m ++ [a] := by
  unfold mergeNew
  rw [List.filter_append]
  split
  · rename_i h
    rw [List.filter_cons_of_neg (by simpa using h), List.filter_nil, List.append_nil]
  · rename_i h
    rw [List.filter_cons_of_pos (by simpa using h), List.filter_nil, List.append_assoc]

/-- What is appended if it is new is not taken from the other list again. -/
theorem mergeNew_appendNew (key : α → κ) (l m : List α) (a : α) :
    mergeNew key (appendNew key l a) m =
      appendNew key l a ++ (m.filter fun b => key b ∉ l.map key).filter fun b => key b ≠ key a := by
  have hkeys : ∀ b, key b ∉ (appendNew key l a).map key ↔ key b ≠ key a ∧ key b ∉ l.map key := by
    intro b
    rw [appendNew]
    split
    · rename_i ha
      exact ⟨fun hb => ⟨fun hab => hb (hab ▸ ha), hb⟩, And.right⟩
    · simp [and_comm]
  rw [mergeNew, List.filter_filter]
  exact congrArg _ (List.filter_congr fun b _ => by simp only [hkeys, Bool.decide_and])

/-- What is appended to a merged list if it is new could have been appended before. -/
theorem appendNew_mergeNew (key : α → κ) (l m : List α) (a : α) :
    appendNew key (mergeNew key l m) a = mergeNew key l (appendNew key m a) := by
  by_cases hm : key a ∈ m.map key
  · have hboth : key a ∈ (mergeNew key l m).map key := mem_map_mergeNew.mpr (.inr hm)
    rw [appendNew, if_pos hboth, appendNew, if_pos hm]
  · have hkey : key a ∈ (mergeNew key l m).map key ↔ key a ∈ l.map key :=
      mem_map_mergeNew.trans (or_iff_left hm)
    have hnew : appendNew key m a = m ++ [a] := if_neg hm
    rw [hnew, mergeNew_concat, appendNew]
    by_cases hl : key a ∈ l.map key
    · rw [if_pos hl, if_pos (hkey.mpr hl)]
    · rw [if_neg hl, if_neg (mt hkey.mp hl)]

end

/-! ## Queries -/

namespace Query

/-- The query with the parts of another that it has not. The table, the selected expressions and
the limit are its own. -/
def merge (q n : Query) : Query :=
  { q with
    joins := mergeNew Join.table q.joins n.joins
    conditions := mergeNew Condition.text q.conditions n.conditions
    distinct := mergeNew Expr.text q.distinct n.distinct
    orderBy := mergeNew OrderKey.key q.orderBy n.orderBy }

/-- The query has all that `q` has, in the same order; it may join, constrain and order more. -/
structure Extends (r q : Query) : Prop where
  table : r.table = q.table
  select : r.select = q.select
  limit : r.limit = q.limit
  joins : q.joins <+: r.joins
  conditions : q.conditions <+: r.conditions
  distinct : q.distinct <+: r.distinct
  orderBy : q.orderBy <+: r.orderBy

/-- The queries join the same tables, have conditions and distinct expressions of the same texts,
and have the same order keys. -/
structure SameParts (q r : Query) : Prop where
  joins : ∀ t, t ∈ q.joins.map Join.table ↔ t ∈ r.joins.map Join.table
  conditions : ∀ t, t ∈ q.conditions.map Condition.text ↔ t ∈ r.conditions.map Condition.text
  distinct : ∀ t, t ∈ q.distinct.map Expr.text ↔ t ∈ r.distinct.map Expr.text
  orderBy : ∀ k, k ∈ q.orderBy.map OrderKey.key ↔ k ∈ r.orderBy.map OrderKey.key

variable (q m n : Query)

theorem merge_extends : (q.merge n).Extends q :=
  ⟨rfl, rfl, rfl, prefix_mergeNew _ _ _, prefix_mergeNew _ _ _, prefix_mergeNew _ _ _,
    prefix_mergeNew _ _ _⟩

/-- A second merge changes nothing. -/
theorem merge_merge_self : (q.merge n).merge n = q.merge n := by
  simp only [merge, mergeNew_mergeNew_self]

/-- The order of two merges does not decide which parts there are. -/
theorem merge_merge_sameParts : ((q.merge m).merge n).SameParts ((q.merge n).merge m) := by
  constructor <;> intro k <;> simp only [merge, mem_map_mergeNew] <;> exact or_right_comm

theorem merge_ofTable (table : String) : q.merge (ofTable table) = q := by
  obtain ⟨⟩ := q
  simp [merge, ofTable]

theorem add_merge (c : Clause) : (q.merge n).add c = q.merge (n.add c) := by
  cases c with
  | join => simp [add, addJoin, merge, appendNew_mergeNew]
  | condition => simp [add, addCondition, merge, appendNew_mergeNew]
  | distinct => simp [add, addDistinct, merge, appendNew_mergeNew]
  | orderBy => simp [add, addOrderBy, merge, appendNew_mergeNew]

theorem addAll_merge (cs : List Clause) : (q.merge n).addAll cs = q.merge (n.addAll cs) := by
  induction cs generalizing n with
  | nil => rfl
  | cons c cs ih => rw [addAll_cons, add_merge, ih, addAll_cons]

/-- **Adding clauses to a query is a merge with what they leave in a fresh query.** -/
theorem addAll_eq_merge (cs : List Clause) :
    q.addAll cs = q.merge ((ofTable q.table).addAll cs) := by
  have h := q.addAll_merge (ofTable q.table) cs
  rwa [merge_ofTable] at h

end Query

end ObservationQuery
