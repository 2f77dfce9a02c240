import ObservationQuery.Proofs.Latest

/-!
# Filters of a single table

A reference to bare identifiers is a condition on the referring column, whether the linked entity is
stored or not. A filter all of whose references are of this kind reads no table but its own, and the
other tables of a deployment do not matter to it.

* `Linked.Bare` — a reference is absent or names bare identifiers.
* `Filter.RefersByIds` — so do all references that a filter follows.

Principal result: `compile_of_refersByIds` — such a filter has the same query, or none for the same
reason, in every deployment with the same table for its entity, and it reads no other table.
-/

namespace ObservationQuery

open Contribution

/-- The reference is absent or names bare identifiers. -/
inductive Linked.Bare {F : Type} : Option (Linked F) → Prop
  | absent : Bare none
  | ids (s : IdSet) : Bare (some (.ids s))

/-- Each reference that the filter follows is absent or names bare identifiers, and no matching
commands are asked for. Filters on features and on systems follow no references. -/
def Filter.RefersByIds : Filter → Prop
  | observation f => Linked.Bare f.dataStream ∧ Linked.Bare f.foi
  | observationStatistics f =>
    Linked.Bare f.observations.dataStream ∧ Linked.Bare f.observations.foi
  | dataStream f => Linked.Bare f.system
  | featureOfInterest _ => True
  | system _ => True
  | commandStream f => Linked.Bare f.system ∧ f.commands = none
  | command f => Linked.Bare f.commandStream

/-! ## What such filters contribute -/

/-- What a bare reference contributes is decided by what bare identifiers do. -/
theorem Linked.Bare.ofOption_congr {F : Type} {link : Option (Linked F)}
    {c d : Linked F → Contribution} (h : Linked.Bare link) (hids : ∀ s, c (.ids s) = d (.ids s)) :
    ofOption c link = ofOption d link := by
  cases h with
  | absent => rfl
  | ids s => exact hids s

section
variable (tables more : Tables) (root table : String)

theorem StreamRow.systemContribution_congr {link : Option (Linked SystemFilter)}
    (h : Linked.Bare link) : ofOption (systemContribution tables root table) link =
      ofOption (systemContribution more root table) link := h.ofOption_congr fun _ => rfl

theorem CommandRow.streamContribution_congr {link : Option (Linked CommandStreamFilter)}
    (h : Linked.Bare link) : ofOption (streamContribution tables root table) link =
      ofOption (streamContribution more root table) link := h.ofOption_congr fun _ => rfl

theorem ObservationRow.foiContribution_congr {link : Option (Linked FeatureFilter)}
    (h : Linked.Bare link) (time : Option TimeFilter) :
    ofOption (foiContribution tables root table time) link =
      ofOption (foiContribution more root table time) link := h.ofOption_congr fun _ => rfl

/-- A pinned stream is a condition on the referring column too. -/
theorem ObservationRow.dataStreamContribution_congr {link : Option (Linked DataStreamFilter)}
    (h : Linked.Bare link) (pin : Option Int64) :
    dataStreamContribution tables root table pin link =
      dataStreamContribution more root table pin link := by
  cases h with
  | absent => rfl
  | ids s => rfl

/-- **A filter that refers by identifiers contributes the same in every deployment.** -/
theorem Filter.RefersByIds.contribution_congr {f : Filter} (h : f.RefersByIds) :
    f.contribution tables root table = f.contribution more root table := by
  cases f with
  | observation f =>
    obtain ⟨hstream, hfoi⟩ := h
    have hstreams := ObservationRow.dataStreamContribution_congr tables more root table hstream none
    have hfeatures := ObservationRow.foiContribution_congr tables more root table hfoi
      f.phenomenonTime
    simp only [contribution, ObservationFilter.contribution, hstreams, hfeatures]
  | observationStatistics f =>
    obtain ⟨hstream, hfoi⟩ := h
    have hstreams := ObservationRow.dataStreamContribution_congr tables more root table hstream
      f.dataStreamId
    have hfeatures := ObservationRow.foiContribution_congr tables more root table hfoi
      f.observations.phenomenonTime
    simp only [contribution, StatisticsFilter.contribution, hstreams, hfeatures]
  | dataStream f =>
    have hsystems := StreamRow.systemContribution_congr tables more root table h
    simp only [contribution, DataStreamFilter.contribution, hsystems]
  | featureOfInterest | system => rfl
  | commandStream f =>
    obtain ⟨hsystem, hcommands⟩ := h
    have hsystems := StreamRow.systemContribution_congr tables more root table hsystem
    simp only [contribution, CommandStreamFilter.contribution, hsystems, hcommands]
    rfl
  | command f =>
    have hstreams := CommandRow.streamContribution_congr tables more root table h
    simp only [contribution, CommandFilter.contribution, hstreams]

end

/-! ## What such filters read -/

/-- What is found behind references, in whatever lists, is not found behind a bare one. -/
theorem Linked.Bare.elim_eq_nil {F α : Type} {link : Option (Linked F)} {c : Linked F → List α}
    (h : Linked.Bare link) (hids : ∀ s, c (.ids s) = []) : link.elim [] c = [] := by
  cases h with
  | absent => rfl
  | ids s => exact hids s

/-- The same with what is found behind two references. -/
theorem Linked.Bare.append_eq_nil {F G α : Type} {link : Option (Linked F)}
    {other : Option (Linked G)} {c : Linked F → List α} {d : Linked G → List α}
    (h : Linked.Bare link) (h' : Linked.Bare other) (hc : ∀ s, c (.ids s) = [])
    (hd : ∀ s, d (.ids s) = []) : link.elim [] c ++ other.elim [] d = [] := by
  rw [h.elim_eq_nil hc, h'.elim_eq_nil hd, List.append_nil]

namespace Filter.RefersByIds

variable {f : Filter} (tables : Tables) (table : String)

/-- No table is joined. -/
theorem joins_eq_nil (h : f.RefersByIds) : f.joins tables table = [] := by
  cases f with
  | observation | observationStatistics =>
    exact h.1.append_eq_nil h.2 (fun _ => rfl) fun _ => rfl
  | dataStream | command => exact Linked.Bare.elim_eq_nil h fun _ => rfl
  | featureOfInterest | system => rfl
  | commandStream => exact h.1.elim_eq_nil fun _ => rfl

/-- No latest rows are asked for behind a join. -/
theorem linkedLatest_eq_nil (h : f.RefersByIds) : f.linkedLatest tables = [] := by
  cases f with
  | observation | observationStatistics =>
    exact h.1.append_eq_nil h.2 (fun _ => rfl) fun _ => rfl
  | dataStream | command => exact Linked.Bare.elim_eq_nil h fun _ => rfl
  | featureOfInterest | system => rfl
  | commandStream => exact h.1.elim_eq_nil fun _ => rfl

/-- No matching commands are asked for. -/
theorem commandConditions_eq_nil (h : f.RefersByIds) : f.commandConditions tables table = [] := by
  cases f with
  | observation | observationStatistics | dataStream | featureOfInterest | system => rfl
  | commandStream f =>
    rw [commandConditions, CommandStreamFilter.commandConditions, h.2]
    rfl
  | command f => exact Linked.Bare.elim_eq_nil h fun _ => rfl

/-- No condition of the query holds a query. -/
theorem flat_include (h : f.RefersByIds) (hs : (f.contribution tables table table).Succeeds) :
    ((Query.ofTable table).include (f.contribution tables table table)).Flat := by
  have hshapes : (f.contribution tables table table).Shapes table
      (f.linkedLatest tables ++ f.latest table) (f.commandConditions tables table) :=
    f.shapes_contribution
  rw [h.linkedLatest_eq_nil, h.commandConditions_eq_nil] at hshapes
  intro c hc
  by_contra hselect
  rw [Bool.not_eq_false] at hselect
  rcases Query.mem_conditions_addAll _ _ hc with hnil | hc
  · cases hnil
  · have hown := (hshapes.condition_mem_iff hs (List.forall_mem_nil _) f.table_of_mem_latest
      hselect).mp hc
    simp at hown

end Filter.RefersByIds

/-- **A filter that refers by identifiers has the same query, or none for the same reason, in all
deployments with the same table for its entity. The query joins no table, and no other query stands
in it, so it reads this table only.** -/
theorem compile_of_refersByIds {tables more : Tables} {f : Filter} (hf : f.RefersByIds)
    (htable : tables.table? f.entity = more.table? f.entity) :
    compile tables f = compile more f ∧ ∀ q, compile tables f = .ok q →
      tables.table? f.entity = some q.table ∧ q.joins = [] ∧ ∀ r, q.Embeds r → r = q := by
  refine ⟨?_, fun q hq => ⟨(contribution_of_compile hq).1, ?_, fun r hr => ?_⟩⟩
  · have hcontribution := fun table => hf.contribution_congr tables more table table
    simp only [compile, Tables.require, Filter.queryOver, htable, hcontribution]
  · rw [joins_of_compile hq, hf.joins_eq_nil]
    rfl
  · obtain ⟨table, -, hs, -, rfl⟩ := compile_eq_ok.mp hq
    have hflat := hf.flat_include tables table hs
    have hnone : ∀ key s, .inQuery key s ∉ ((Query.ofTable table).include
        (f.contribution tables table table)).conditions := by
      intro key s hc
      cases hflat _ hc
    rcases hr.eq_or_mem fun key s hc => absurd hc (hnone key s) with rfl | ⟨key, hc⟩
    · rfl
    · exact absurd hc (hnone key r)

/-- The newest observations of two data streams, of some features or of none, in a deployment that
stores observations only and in one that stores everything. -/
theorem compile_of_refersByIds_newest :
    let tables : Tables := { observation := some "obs" }
    let more : Tables :=
      { observation := some "obs", dataStream := some "streams", featureOfInterest := some "foi",
        system := some "systems", commandStream := some "controls", command := some "commands" }
    let f : Filter := .observation
      { dataStream := some (.ids (.ofList [7, 8])), foi := some (.ids (.ofList [noFeature, 5])),
        resultTime := some .latest }
    f.RefersByIds ∧ tables.table? f.entity = more.table? f.entity ∧
      compile tables f = compile more f ∧ ∃ q, compile more f = .ok q ∧ q.joins = [] ∧
        ∀ r, q.Embeds r → r = q := by
  intro tables more f
  have hf : f.RefersByIds := ⟨.ids _, .ids _⟩
  have hq : ∃ q, compile tables f = .ok q := ⟨_, rfl⟩
  obtain ⟨hsame, hreads⟩ := @compile_of_refersByIds tables more f hf rfl
  refine ⟨hf, rfl, hsame, hq.imp fun q h => ?_⟩
  obtain ⟨-, hjoins, hembeds⟩ := hreads q h
  exact ⟨hsame ▸ h, hjoins, hembeds⟩

end ObservationQuery
