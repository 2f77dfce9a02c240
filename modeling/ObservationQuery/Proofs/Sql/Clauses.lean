import ObservationQuery.Sql.Clause

/-!
# What a query collects

* `Clause.joins`, `Clause.conditions`, `Clause.distincts`, `Clause.orderKeys` — the parts of one
  kind in a clause.

Principal results: `Query.joins_addAll`, `Query.conditions_addAll`, `Query.distinct_addAll`,
`Query.orderBy_addAll` — each list of a query collects the parts of its own kind, in order, and
leaves out what it has already; `foldl_appendNew_eq` — nothing is left out where all keys differ.
-/

namespace ObservationQuery

/-! ## Lists without repeated keys -/

section
variable {α κ : Type} [DecidableEq κ] {key : α → κ} {l : List α} {a b : α}

theorem mem_appendNew (h : b ∈ appendNew key l a) : b ∈ l ∨ b = a := by
  unfold appendNew at h
  split at h
  · exact .inl h
  · rcases List.mem_append.mp h with h | h
    · exact .inl h
    · exact .inr (List.mem_singleton.mp h)

theorem subset_appendNew (key : α → κ) (l : List α) (a : α) : l ⊆ appendNew key l a := by
  unfold appendNew
  split
  · exact List.Subset.refl l
  · exact List.subset_append_left l [a]

theorem key_mem_appendNew (key : α → κ) (l : List α) (a : α) :
    key a ∈ (appendNew key l a).map key := by
  unfold appendNew
  split
  · assumption
  · simp

theorem nodup_appendNew (h : (l.map key).Nodup) : ((appendNew key l a).map key).Nodup := by
  unfold appendNew
  split
  · exact h
  · rename_i hnew
    rw [List.map_append, List.nodup_append]
    refine ⟨h, by simp, ?_⟩
    intro x hx y hy hxy
    rw [List.map_cons, List.map_nil, List.mem_singleton] at hy
    rw [hxy, hy] at hx
    exact hnew hx

theorem mem_foldl_appendNew {as : List α} (h : b ∈ as.foldl (appendNew key) l) :
    b ∈ l ∨ b ∈ as := by
  induction as generalizing l with
  | nil => exact .inl h
  | cons a as ih =>
    rcases ih h with h | h
    · rcases mem_appendNew h with h | rfl
      · exact .inl h
      · exact .inr List.mem_cons_self
    · exact .inr (List.mem_cons_of_mem _ h)

theorem subset_foldl_appendNew (key : α → κ) (l as : List α) :
    l ⊆ as.foldl (appendNew key) l := by
  induction as generalizing l with
  | nil => exact List.Subset.refl l
  | cons a as ih => exact List.Subset.trans (subset_appendNew key l a) (ih _)

/-- What is left out has the key of an element that is there. -/
theorem key_mem_foldl_appendNew {as : List α} (h : b ∈ as) :
    key b ∈ (as.foldl (appendNew key) l).map key := by
  induction as generalizing l with
  | nil => cases h
  | cons a as ih =>
    rcases List.mem_cons.mp h with rfl | h
    · exact List.map_subset key (subset_foldl_appendNew key _ as) (key_mem_appendNew key l b)
    · exact ih h

theorem nodup_foldl_appendNew {as : List α} (h : (l.map key).Nodup) :
    ((as.foldl (appendNew key) l).map key).Nodup := by
  induction as generalizing l with
  | nil => exact h
  | cons a as ih => exact ih (nodup_appendNew h)

/-- Elements without a part of some kind add none of that kind. -/
theorem flatMap_foldl_appendNew {β : Type} {f : α → List β} {as : List α}
    (h : ∀ a ∈ as, f a = []) : (as.foldl (appendNew key) l).flatMap f = l.flatMap f := by
  induction as generalizing l with
  | nil => rfl
  | cons a as ih =>
    rw [List.forall_mem_cons] at h
    rw [List.foldl_cons, ih h.2]
    unfold appendNew
    split
    · rfl
    · rw [List.flatMap_append, List.flatMap_singleton, h.1, List.append_nil]

/-- Elements whose keys are all there are left out. -/
theorem foldl_appendNew_eq_self {as : List α} (h : ∀ a ∈ as, key a ∈ l.map key) :
    as.foldl (appendNew key) l = l := by
  induction as with
  | nil => rfl
  | cons a as ih =>
    rw [List.forall_mem_cons] at h
    have hleft : appendNew key l a = l := if_pos h.1
    rw [List.foldl_cons, hleft, ih h.2]

/-- Nothing is left out where all keys differ. -/
theorem foldl_appendNew_eq {as : List α} (h : ((l ++ as).map key).Nodup) :
    as.foldl (appendNew key) l = l ++ as := by
  induction as generalizing l with
  | nil => simp
  | cons a as ih =>
    have hnew : key a ∉ l.map key := by
      intro hmem
      rw [List.map_append, List.nodup_append] at h
      exact h.2.2 _ hmem _ (by simp) rfl
    have happ : appendNew key l a = l ++ [a] := if_neg hnew
    have hassoc : l ++ a :: as = l ++ [a] ++ as := by simp
    rw [List.foldl_cons, happ, hassoc]
    rw [hassoc] at h
    exact ih h

end

/-! ## The parts of clauses -/

namespace Clause

/-- The joined table of a clause. -/
def joins : Clause → List Join
  | .join j => [j]
  | _ => []

/-- The condition of a clause. -/
def conditions : Clause → List Condition
  | .condition c => [c]
  | _ => []

/-- The expression of which a clause wants one row for each value. -/
def distincts : Clause → List Expr
  | .distinct e => [e]
  | _ => []

/-- The order key of a clause. -/
def orderKeys : Clause → List OrderKey
  | .orderBy key => [key]
  | _ => []

end Clause

namespace Query

variable (q : Query) (cs : List Clause)

theorem joins_addAll :
    (q.addAll cs).joins = (cs.flatMap Clause.joins).foldl (appendNew Join.table) q.joins := by
  induction cs generalizing q with
  | nil => rfl
  | cons c cs ih =>
    rw [addAll_cons, ih, List.flatMap_cons, List.foldl_append]
    cases c <;> rfl

theorem conditions_addAll : (q.addAll cs).conditions =
    (cs.flatMap Clause.conditions).foldl (appendNew Condition.text) q.conditions := by
  induction cs generalizing q with
  | nil => rfl
  | cons c cs ih =>
    rw [addAll_cons, ih, List.flatMap_cons, List.foldl_append]
    cases c <;> rfl

theorem distinct_addAll : (q.addAll cs).distinct =
    (cs.flatMap Clause.distincts).foldl (appendNew Expr.text) q.distinct := by
  induction cs generalizing q with
  | nil => rfl
  | cons c cs ih =>
    rw [addAll_cons, ih, List.flatMap_cons, List.foldl_append]
    cases c <;> rfl

theorem mem_conditions_addAll {c : Condition} (h : c ∈ (q.addAll cs).conditions) :
    c ∈ q.conditions ∨ .condition c ∈ cs := by
  rw [conditions_addAll] at h
  refine (mem_foldl_appendNew h).imp_right fun h => ?_
  obtain ⟨clause, hclause, hc⟩ := List.mem_flatMap.mp h
  cases clause with
  | condition d =>
    rw [List.mem_singleton.mp hc]
    exact hclause
  | join | distinct | orderBy => cases hc

/-- A condition that is left out is written like one that is there. -/
theorem text_mem_conditions_addAll {c : Condition} (h : .condition c ∈ cs) :
    c.text ∈ (q.addAll cs).conditions.map Condition.text := by
  rw [conditions_addAll]
  exact key_mem_foldl_appendNew (List.mem_flatMap.mpr ⟨_, h, List.mem_singleton_self c⟩)

/-- The texts of conditions are those that were there and those of the clauses. -/
theorem text_mem_conditions_addAll_iff {text : String} :
    text ∈ (q.addAll cs).conditions.map Condition.text ↔
      text ∈ q.conditions.map Condition.text ∨ ∃ c, .condition c ∈ cs ∧ c.text = text := by
  constructor
  · intro h
    obtain ⟨c, hc, rfl⟩ := List.mem_map.mp h
    exact (mem_conditions_addAll q cs hc).imp (fun hc => List.mem_map_of_mem hc)
      fun hc => ⟨c, hc, rfl⟩
  · rintro (h | ⟨c, hc, rfl⟩)
    · obtain ⟨c, hc, rfl⟩ := List.mem_map.mp h
      refine List.mem_map_of_mem ?_
      rw [conditions_addAll]
      exact subset_foldl_appendNew Condition.text _ _ hc
    · exact text_mem_conditions_addAll q cs hc

theorem orderBy_addAll : (q.addAll cs).orderBy =
    (cs.flatMap Clause.orderKeys).foldl (appendNew OrderKey.key) q.orderBy := by
  induction cs generalizing q with
  | nil => rfl
  | cons c cs ih =>
    rw [addAll_cons, ih, List.flatMap_cons, List.foldl_append]
    cases c <;> rfl

@[simp] theorem select_addAll : (q.addAll cs).select = q.select := by
  induction cs generalizing q with
  | nil => rfl
  | cons c cs ih =>
    rw [addAll_cons, ih]
    cases c <;> rfl

@[simp] theorem limit_addAll : (q.addAll cs).limit = q.limit := by
  induction cs generalizing q with
  | nil => rfl
  | cons c cs ih =>
    rw [addAll_cons, ih]
    cases c <;> rfl

end Query

end ObservationQuery
