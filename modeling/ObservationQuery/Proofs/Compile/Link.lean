import ObservationQuery.Compile.Link

/-!
# How references are followed

* `DataStreamFilter.NamesOnly`, `FeatureFilter.NamesOnly`, `SystemFilter.NamesOnly`,
  `CommandStreamFilter.NamesOnly` — a filter names identifiers and has no other criterion.

Principal results: `Linked.resolve_eq_join`, `Linked.resolve_eq_flat` — when a reference is a join,
and when it is a condition on the referring column.
-/

namespace ObservationQuery

namespace Linked

variable {F : Type} [Linkable F] {link : Linked F} {table? : Option String} {entity : Entity}
  {field : String}

/-- A reference is a join exactly when it is a filter and the table is configured. -/
theorem resolve_eq_join {table : String} {filter : F} :
    link.resolve table? entity field = .ok (.join table filter) ↔
      link = .filter filter ∧ table? = some table := by
  cases link with
  | ids ids => simp [resolve]
  | filter nested =>
    cases table? with
    | none =>
      unfold resolve
      dsimp only
      split <;> simp
    | some t =>
      simp only [resolve, Except.ok.injEq, Resolution.join.injEq, Linked.filter.injEq,
        Option.some.injEq]
      exact and_comm

/-- A reference is a condition on the referring column exactly when it names identifiers, or a
filter that has nothing else does and the table is not configured. -/
theorem resolve_eq_flat {ids : LinkIds} :
    link.resolve table? entity field = .ok (.flat ids) ↔
      (∃ internalIds, link = .ids internalIds ∧ ids = ⟨internalIds, ∅⟩) ∨
        ∃ filter, link = .filter filter ∧ table? = none ∧ idsOnly? filter = some ids := by
  cases link with
  | ids internalIds => simp [resolve, eq_comm]
  | filter nested =>
    cases table? with
    | some t => simp [resolve]
    | none =>
      unfold resolve
      dsimp only
      split
      · rename_i named hnamed
        simp [hnamed]
      · rename_i hnone
        simp [hnone]

end Linked

end ObservationQuery
