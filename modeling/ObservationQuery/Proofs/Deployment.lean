import ObservationQuery.Proofs.Admissible

/-!
# Filters in larger deployments

A deployment that stores further entities follows more references by joins. A filter that only names
identifiers, which is all that a reference can be where its entity is not stored, is then compiled
as a filter on the joined table.

* `Tables.Covers` — each entity that is stored in one deployment is stored in another, under
  whatever name.
* `FeatureFilter.NamesOnly.admissible`, … — a filter with nothing but identifiers can be expressed.

Principal result: `isOk_of_covers` — a filter that has a query in a deployment has one in every
deployment that covers it.
-/

namespace ObservationQuery

/-- Each entity with a table in `tables` has one here, of whatever name. -/
def Tables.Covers (more tables : Tables) : Prop :=
  ∀ entity, (tables.table? entity).isSome → (more.table? entity).isSome

instance (more tables : Tables) : Decidable (more.Covers tables) :=
  decidable_of_iff (∀ entity ∈ Entity.all, (tables.table? entity).isSome →
      (more.table? entity).isSome)
    ⟨fun h entity => h entity (Entity.mem_all entity), fun h entity _ => h entity⟩

/-! ## Filters that only name identifiers -/

theorem FeatureFilter.NamesOnly.admissible {f : FeatureFilter} (h : f.NamesOnly) :
    f.Admissible := by
  rw [h]
  constructor <;> simp

theorem SystemFilter.NamesOnly.admissible {f : SystemFilter} (h : f.NamesOnly) :
    f.Admissible := by
  rw [h]
  constructor <;> simp

theorem DataStreamFilter.NamesOnly.admissible {f : DataStreamFilter} (h : f.NamesOnly)
    (tables : Tables) : f.Admissible tables := by
  rw [h]
  constructor <;> simp

theorem CommandStreamFilter.NamesOnly.admissible {f : CommandStreamFilter} (h : f.NamesOnly)
    (tables : Tables) : f.Admissible tables := by
  rw [h]
  constructor <;> simp

/-! ## References -/

/-- A reference that can be followed can be followed where the table is configured too, if a filter
that only names identifiers is admissible there, and one that was admissible still is. -/
theorem Linked.Admissible.mono {F : Type} {table? more? : Option String}
    {namesOnly admissible admissible' : F → Prop} {link : Linked F}
    (htable : table?.isSome → more?.isSome) (hnames : ∀ f, namesOnly f → admissible' f)
    (hfilter : ∀ f, admissible f → admissible' f)
    (h : link.Admissible table? namesOnly admissible) :
    link.Admissible more? namesOnly admissible' := by
  cases link with
  | ids ids => trivial
  | filter f =>
    cases table? with
    | some table =>
      obtain ⟨name, rfl⟩ := Option.isSome_iff_exists.mp (htable rfl)
      exact hfilter f h
    | none =>
      cases more? with
      | some name => exact hnames f h
      | none => exact h

/-! ## Filters -/

variable {more tables : Tables}

theorem DataStreamFilter.Admissible.mono {f : DataStreamFilter} (hT : more.Covers tables)
    (h : f.Admissible tables) : f.Admissible more :=
  ⟨fun link hlink => (h.system link hlink).mono (hT .system)
    (fun _ => SystemFilter.NamesOnly.admissible) fun _ => id, h.observations, h.fullText,
    h.validTime⟩

theorem CommandStreamFilter.Admissible.mono {f : CommandStreamFilter} (hT : more.Covers tables)
    (h : f.Admissible tables) : f.Admissible more := by
  refine ⟨fun link hlink => ?_, fun g hg => ?_, h.fullText, h.validTime⟩
  · exact (h.system link hlink).mono (hT .system) (fun _ => SystemFilter.NamesOnly.admissible)
      fun _ => id
  · obtain ⟨hsome, hscoped⟩ := h.commands g hg
    exact ⟨hT .command hsome, hscoped⟩

theorem CommandFilter.Admissible.mono {f : CommandFilter} (hT : more.Covers tables)
    (h : f.Admissible tables) : f.Admissible more :=
  ⟨fun link hlink => (h.commandStream link hlink).mono (hT .commandStream)
    (fun _ hnames => hnames.admissible more) fun _ hfilter => hfilter.mono hT, h.issueTime⟩

/-- A filter on features that names "no feature" has nothing else, whether features are stored or
not. -/
theorem ObservationFilter.Admissible.mono {f : ObservationFilter} (hT : more.Covers tables)
    (h : f.Admissible tables) : f.Admissible more := by
  refine ⟨fun link hlink => ?_, fun link hlink => ?_, h.phenomenonTime, h.resultTime⟩
  · exact (h.dataStream link hlink).mono (hT .dataStream)
      (fun _ hnames => hnames.admissible more) fun _ hfilter => hfilter.mono hT
  · refine (h.foi link hlink).mono (hT .featureOfInterest) (fun g hnames => ?_) fun _ => id
    split
    · exact hnames
    · exact hnames.admissible

theorem Filter.Admissible.mono {f : Filter} (hT : more.Covers tables)
    (h : f.Admissible tables) : f.Admissible more := by
  cases f with
  | observation f => exact ObservationFilter.Admissible.mono hT h
  | observationStatistics f => exact ObservationFilter.Admissible.mono hT h
  | dataStream f => exact DataStreamFilter.Admissible.mono hT h
  | featureOfInterest | system => exact h
  | commandStream f => exact CommandStreamFilter.Admissible.mono hT h
  | command f => exact CommandFilter.Admissible.mono hT h

/-- **A filter that has a query in a deployment has one in every deployment that stores the same
entities and perhaps more, whatever their tables are called.** -/
theorem isOk_of_covers {f : Filter} (hT : more.Covers tables) (h : ∃ q, compile tables f = .ok q) :
    ∃ q, compile more f = .ok q := by
  obtain ⟨q, hq⟩ := h
  obtain ⟨table, htable, hs, hlimit, -⟩ := compile_eq_ok.mp hq
  have hsome : (more.table? f.entity).isSome := hT f.entity (by rw [htable]; rfl)
  obtain ⟨table', htable'⟩ := Option.isSome_iff_exists.mp hsome
  have hadmissible : f.Admissible more := (f.succeeds_contribution.mp hs).mono hT
  exact ⟨_, compile_eq_ok.mpr
    ⟨table', htable', f.succeeds_contribution.mpr hadmissible, hlimit, rfl⟩⟩

/-- References by identifier become joins, through the streams to their systems, and the observed
features stay on the referring column. -/
theorem isOk_nested_ids :
    let tables : Tables := { observation := some "obs", dataStream := some "streams" }
    let more : Tables :=
      { observation := some "o", dataStream := some "s", featureOfInterest := some "features",
        system := some "systems" }
    let f : Filter := .observation
      { dataStream := some (.filter { system := some (.filter { uniqueIds := .singleton "urn:s" }),
                                      outputNames := .singleton "temp" }),
        foi := some (.filter { internalIds := .singleton noFeature }) }
    more.Covers tables ∧ (∃ q, compile tables f = .ok q) ∧ ∃ q, compile more f = .ok q := by
  intro tables more f
  have hT : more.Covers tables := by decide
  have hq : ∃ q, compile tables f = .ok q := ⟨_, rfl⟩
  exact ⟨hT, hq, isOk_of_covers hT hq⟩

end ObservationQuery
