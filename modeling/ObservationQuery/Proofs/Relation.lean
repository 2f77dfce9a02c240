import ObservationQuery.Proofs.Compile.Alike

/-!
# The relation of a range

The relation of a range says how a validity has to relate to the interval. The times of observations
and commands are single times, which have to lie in the interval whatever the relation. Yet the
phenomenon time of observations is also passed on to the validity of joined features, with its
relation.

* `Tolerance.relation` — filters may differ in the relation of ranges for single times.

Principal result: `compile_relation` — such filters have a query both or neither, and the queries
differ in the condition on the validity of joined features at most.
-/

namespace ObservationQuery

open Contribution

/-- The relations of ranges may differ where the range is for a single time. -/
def Tolerance.relation : Tolerance where
  moment := TimeFilter.SameInterval
  dataStream _ := False
  foi _ := False
  system _ := False
  commandStream _ := False
  parent _ := False

theorem Tolerance.harmless_relation (tables : Tables) : relation.Harmless tables where
  moment _ _ h := h
  dataStream _ h := h.elim
  foi _ h := h.elim
  system _ h := h.elim
  commandStream _ h := h.elim

/-- Queries over one table that take up contributions which agree have the same shape, and related
conditions. -/
theorem Query.include_agree {P : Condition → Condition → Prop} {a b : Contribution}
    (h : Agree P a b) (q : Query) (hq : q.conditions = []) :
    (q.include b).joins = (q.include a).joins ∧ (q.include b).distinct = (q.include a).distinct ∧
      (q.include b).orderBy = (q.include a).orderBy ∧
      ∀ c ∈ (q.include a).conditions, ∃ d, d.text ∈ (q.include b).conditions.map Condition.text ∧
        (c = d ∨ P c d) := by
  simp only [Query.include]
  refine ⟨?_, ?_, ?_, fun c hc => ?_⟩
  · rw [joins_addAll, joins_addAll, h.flatMap_eq fun _ => rfl]
  · rw [distinct_addAll, distinct_addAll, h.flatMap_eq fun _ => rfl]
  · rw [orderBy_addAll, orderBy_addAll, h.flatMap_eq fun _ => rfl]
  · rcases mem_conditions_addAll q _ hc with hnil | hc
    · rw [hq] at hnil
      cases hnil
    · obtain ⟨d, hd, hrel⟩ := h.condition_mem hc
      exact ⟨d, text_mem_conditions_addAll q _ hd, hrel⟩

/-- **Filters that differ in the relation of ranges for single times fail for the same reason. They
have the same query where no features are joined, or where these have to be valid in the same
relation to the phenomenon time. Otherwise the queries differ in the conditions on this validity and
in nothing else.** -/
theorem compile_relation {tables : Tables} {f g : Filter} (h : f.Alike .relation g) :
    (∀ e, compile tables f = .error e ↔ compile tables g = .error e) ∧
      ((∀ a ∈ f.observations?, ∀ b ∈ g.observations?, ∀ features,
        a.JoinsFeatures tables features → a.phenomenonTime = b.phenomenonTime) →
        compile tables f = compile tables g) ∧
      ∀ p q, compile tables f = .ok p → compile tables g = .ok q →
        q.table = p.table ∧ q.joins = p.joins ∧ q.distinct = p.distinct ∧
          q.orderBy = p.orderBy ∧ q.limit = p.limit ∧
          ∀ c ∈ p.conditions, ∃ d, d.text ∈ q.conditions.map Condition.text ∧
            (c = d ∨ f.Validity tables g c d) := by
  have hv := Tolerance.harmless_relation tables
  have hagree : ∀ table, (f.contribution tables table table).Agree (f.Validity tables g)
      (g.contribution tables table table) := fun table => h.agree_contribution table table hv
  refine ⟨fun e => ?_, fun htime => ?_, fun p q hp hq => ?_⟩
  · rw [compile_eq_error, compile_eq_error, h.entity_eq, h.limit_eq]
    simp only [fun table => (hagree table).error, fun table => (hagree table).succeeds_iff]
  · exact compile_congr h.entity_eq h.limit_eq fun table =>
      h.contribution_eq table table hv htime
  · obtain ⟨table, htable, -, -, rfl⟩ := compile_eq_ok.mp hp
    obtain ⟨table', htable', -, -, rfl⟩ := compile_eq_ok.mp hq
    rw [h.entity_eq, htable', Option.some.injEq] at htable
    subst htable
    obtain ⟨hjoins, hdistinct, horder, hconditions⟩ :=
      Query.include_agree (hagree table') (.ofTable table') rfl
    refine ⟨?_, hjoins, hdistinct, horder, h.limit_eq.symm, hconditions⟩
    exact (Query.table_addAll _ _).trans (Query.table_addAll _ _).symm

/-- Command streams with a command that was issued within a day, whatever the relation. -/
theorem compile_relation_commands :
    let tables : Tables := { commandStream := some "streams", command := some "commands" }
    let first : Instant := ⟨1704067200, 0, by decide, by decide, by decide, by decide⟩
    let last : Instant := ⟨1704153600, 0, by decide, by decide, by decide, by decide⟩
    let issued := fun relation : PeriodRelation =>
      Filter.commandStream { commands := some { issueTime := some (.range first last relation) } }
    (issued .contains).Alike .relation (issued .equals) ∧
      compile tables (issued .contains) = compile tables (issued .equals) ∧
      (compile tables (issued .equals)).isOk = true := by
  intro tables first last issued
  have halike : (issued .contains).Alike .relation (issued .equals) :=
    .commandStream (.intro rfl .none rfl rfl rfl rfl
      (.some (.intro rfl .none rfl rfl (.some rfl) rfl)) rfl)
  have hsame : compile tables (issued .contains) = compile tables (issued .equals) :=
    (compile_relation halike).2.1 fun a ha => by cases ha
  exact ⟨halike, hsame, rfl⟩

/-- Where features are joined, the queries of observations within a day differ with the relation. -/
theorem compile_relation_features :
    let tables : Tables := { observation := some "obs", featureOfInterest := some "foi" }
    let first : Instant := ⟨1704067200, 0, by decide, by decide, by decide, by decide⟩
    let last : Instant := ⟨1704153600, 0, by decide, by decide, by decide, by decide⟩
    let observed := fun relation : PeriodRelation =>
      Filter.observation
        { foi := some (.filter {}), phenomenonTime := some (.range first last relation) }
    (observed .equals).Alike .relation (observed .intersects) ∧
      ∃ p q, compile tables (observed .equals) = .ok p ∧
        compile tables (observed .intersects) = .ok q ∧ p.text ≠ q.text ∧
        p.countText ≠ q.countText := by
  intro tables first last observed
  have halike : (observed .equals).Alike .relation (observed .intersects) :=
    .observation (.intro .none (.some (.filter (.refl (fun _ => rfl) _))) (.some rfl) .none rfl)
  exact ⟨halike, _, _, rfl, rfl, by decide +kernel, by decide +kernel⟩

end ObservationQuery
