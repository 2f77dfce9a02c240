import ObservationQuery.Compile.Filter
import ObservationQuery.Proofs.Sql.Merge

/-!
# Filters in a shared query

A filter may be added to a query that has parts already, be it another filter's. What it leaves
there is what it leaves in a fresh query, merged with the parts that are there.

Principal result: `compileInto_merges` — with any filter, pinned or not, and any query: the error is
that of a fresh query, the parts are merged also where a criterion fails, a second time changes
nothing, and two filters leave the same parts in either order.
-/

namespace ObservationQuery

section
variable (tables : Tables) (table : String) (pin : Option Int64) (f : Filter) (q : Query)

theorem Filter.table_compileInto : (f.compileInto tables table pin q).1.table = q.table :=
  Query.table_addAll _ _

/-- What a filter contributes depends on no part of the query but its table. -/
theorem Filter.compileInto_eq_merge {t : String} (h : q.table = t) :
    f.compileInto tables table pin q =
      (q.merge (f.compileInto tables table pin (.ofTable t)).1,
        (f.compileInto tables table pin (.ofTable t)).2) := by
  subst h
  have hmerge := q.addAll_eq_merge (f.pinnedContribution tables q.table table pin).clauses
  simp only [compileInto, Query.include]
  rw [hmerge]
  rfl

end

/-- **A filter that is added to a query is merged with it: the query has what it had, in its order,
then those parts of a fresh query with the filter that it had not. The error is that of the fresh
query, and the parts are merged also where there is one. To add the filter again changes nothing,
and two filters leave the same parts in either order.** -/
theorem compileInto_merges (tables tables' : Tables) (table table' : String)
    (pin pin' : Option Int64) (f g : Filter) (q : Query) :
    let fresh := f.compileInto tables table pin (.ofTable q.table)
    f.compileInto tables table pin q = (q.merge fresh.1, fresh.2) ∧
      (f.compileInto tables table pin q).1.Extends q ∧
      f.compileInto tables table pin (f.compileInto tables table pin q).1 =
        f.compileInto tables table pin q ∧
      (g.compileInto tables' table' pin' (f.compileInto tables table pin q).1).1.SameParts
        (f.compileInto tables table pin (g.compileInto tables' table' pin' q).1).1 := by
  intro fresh
  have hf : ∀ r : Query, r.table = q.table →
      f.compileInto tables table pin r = (r.merge fresh.1, fresh.2) :=
    fun r => f.compileInto_eq_merge tables table pin r
  have hg : ∀ r : Query, r.table = q.table → (g.compileInto tables' table' pin' r).1 =
      r.merge (g.compileInto tables' table' pin' (.ofTable q.table)).1 :=
    fun r hr => congrArg Prod.fst (g.compileInto_eq_merge tables' table' pin' r hr)
  have hmerged : (q.merge fresh.1).table = q.table := rfl
  refine ⟨hf q rfl, ?_, ?_, ?_⟩
  · rw [hf q rfl]
    exact q.merge_extends fresh.1
  · rw [hf q rfl, hf _ hmerged]
    exact Prod.ext (q.merge_merge_self fresh.1) rfl
  · have hother := g.table_compileInto tables' table' pin' q
    rw [hf _ hother, hf q rfl, hg _ hmerged, hg q rfl]
    exact q.merge_merge_sameParts _ _

end ObservationQuery
