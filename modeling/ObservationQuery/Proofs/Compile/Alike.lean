import Mathlib.Data.List.Forall2
import ObservationQuery.Proofs.Alike
import ObservationQuery.Proofs.Compile.Contribution
import ObservationQuery.Proofs.Compile.Filter
import ObservationQuery.Proofs.Sql.Clauses

/-!
# What filters that differ in places contribute

* `Contribution.Agree` — two contributions fail alike, and their clauses are the same one by one but
  for some conditions.
* `TimeFilter.SameInterval` — two criteria on a time differ in the relation of a range at most.
* `Tolerance.Harmless` — times differ in the relation, and references to identifiers are respelled
  only where a filter that names them is not joined.
* `ObservationFilter.Validity` — the conditions by which two filters on observations have joined
  features be valid during the phenomenon time.

Principal results: filters that differ in harmless places contribute the same, as
`CommandFilter.Alike.contribution_eq`, but for the validity of joined features:
`Filter.Alike.agree_contribution`.
-/

namespace ObservationQuery

/-! ## Contributions that agree -/

/-- The clauses are the same, or conditions that `P` relates. -/
inductive Clause.Agree (P : Condition → Condition → Prop) : Clause → Clause → Prop
  | refl (c : Clause) : Agree P c c
  | condition {c d : Condition} (h : P c d) : Agree P (.condition c) (.condition d)

namespace Contribution

/-- The contributions fail alike, and their clauses are the same one by one but for conditions that
`P` relates. -/
structure Agree (P : Condition → Condition → Prop) (a b : Contribution) : Prop where
  error : a.error = b.error
  clauses : List.Forall₂ (Clause.Agree P) a.clauses b.clauses

namespace Agree

variable {P : Condition → Condition → Prop} {a b c d : Contribution}

theorem refl (a : Contribution) : Agree P a a :=
  ⟨rfl, List.forall₂_same.mpr fun c _ => .refl c⟩

theorem of_eq (h : a = b) : Agree P a b := h ▸ refl a

theorem condition {c d : Condition} (h : P c d) : Agree P (condition c) (condition d) :=
  ⟨rfl, .cons (.condition h) .nil⟩

theorem append (h : Agree P a b) (h' : Agree P c d) : Agree P (a ++ c) (b ++ d) := by
  rw [append_def, append_def, ← h.error]
  split
  · exact ⟨h'.error, List.rel_append h.clauses h'.clauses⟩
  · exact h

theorem mono {Q : Condition → Condition → Prop} (hPQ : ∀ c d, P c d → Q c d) (h : Agree P a b) :
    Agree Q a b := by
  refine ⟨h.error, h.clauses.imp fun c d hcd => ?_⟩
  cases hcd with
  | refl c => exact .refl c
  | condition h => exact .condition (hPQ _ _ h)

theorem succeeds_iff (h : Agree P a b) : a.Succeeds ↔ b.Succeeds := by
  rw [Succeeds, h.error, Succeeds]

/-- Contributions agree up to equal conditions only if they are equal. -/
theorem eq (hP : ∀ c d, P c d → c = d) (h : Agree P a b) : a = b := by
  obtain ⟨as, ea⟩ := a
  obtain ⟨bs, eb⟩ := b
  obtain ⟨herror, hclauses⟩ := h
  cases herror
  refine congrArg (fun cs => (⟨cs, ea⟩ : Contribution)) (List.forall₂_eq_eq_eq ▸ ?_)
  refine hclauses.imp fun c d hcd => ?_
  cases hcd with
  | refl c => rfl
  | condition h => rw [hP _ _ h]

/-- Related conditions apart, clauses that agree have the same parts. -/
theorem flatMap_eq {β : Type} {μ : Clause → List β} (hμ : ∀ c, μ (.condition c) = [])
    (h : Agree P a b) : a.clauses.flatMap μ = b.clauses.flatMap μ := by
  have hclauses := h.clauses
  generalize a.clauses = as at hclauses
  generalize b.clauses = bs at hclauses
  induction hclauses with
  | nil => rfl
  | cons hcd _ ih =>
    rw [List.flatMap_cons, List.flatMap_cons, ih]
    cases hcd with
    | refl c => rfl
    | condition h => rw [hμ, hμ]

/-- A condition of one is a condition of the other, or related to one. -/
theorem condition_mem (h : Agree P a b) {c : Condition} (hc : .condition c ∈ a.clauses) :
    ∃ d, .condition d ∈ b.clauses ∧ (c = d ∨ P c d) := by
  have hclauses := h.clauses
  generalize a.clauses = as at hclauses hc
  generalize b.clauses = bs at hclauses
  induction hclauses with
  | nil => cases hc
  | cons hcd _ ih =>
    rcases List.mem_cons.mp hc with rfl | hc
    · cases hcd with
      | refl => exact ⟨c, List.mem_cons_self, .inl rfl⟩
      | condition hP => exact ⟨_, List.mem_cons_self, .inr hP⟩
    · obtain ⟨d, hd, hrel⟩ := ih hc
      exact ⟨d, List.mem_cons_of_mem _ hd, hrel⟩

end Agree

/-! ## Criteria -/

variable {α : Type} {r : α → α → Prop}

theorem ofOption_congr {c d : α → Contribution} {o o' : Option α} (h : Option.Rel r o o')
    (hcd : ∀ a b, r a b → c a = d b) : ofOption c o = ofOption d o' := by
  cases h with
  | none => rfl
  | some hab => exact hcd _ _ hab

theorem unsupported_congr (e : Entity) (field : String) {o o' : Option α}
    (h : Option.Rel r o o') : unsupported e field o = unsupported e field o' :=
  ofOption_congr h fun _ _ _ => rfl

end Contribution

open Contribution

/-- The criteria differ in the relation of a range at most. -/
def TimeFilter.SameInterval (a b : TimeFilter) : Prop :=
  a.withRelation .intersects = b.withRelation .intersects

/-- The relation of a range does not matter for a single time. -/
theorem TimeFilter.SameInterval.contribution_eq {a b : TimeFilter} (h : a.SameInterval b)
    (rows : TimedRows) {time : Expr} (htarget : rows.target = .moment time) (root : String) :
    a.contribution root rows = b.contribution root rows := by
  unfold SameInterval at h
  unfold contribution
  rw [htarget]
  cases a with
  | latest =>
    cases b with
    | latest => rfl
    | range => cases h
  | range first last relation =>
    cases b with
    | latest => cases h
    | range first' last' relation' =>
      cases h
      rfl

/-! ## References -/

section
variable {F : Type} [Linkable F] [Nameable F] {spelled : IdSet → Prop} {alike : F → F → Prop}
  {table? : Option String} {entity : Entity} {field : String} {a b : Linked F}
  {c d : Resolution F → Contribution}

/-- A reference to identifiers is followed as bare identifiers are, if a join with a filter that
names them contributes the same. -/
theorem Linked.Names.ofExcept_resolve {s : IdSet} (h : a.Names s)
    (hjoin : ∀ table ∈ table?, ∀ limit, c (.join table (naming s limit)) = c (.flat ⟨s, ∅⟩)) :
    ofExcept c (a.resolve table? entity field) = c (.flat ⟨s, ∅⟩) := by
  cases h with
  | ids => rfl
  | filter limit =>
    cases table? with
    | some table => exact hjoin table rfl limit
    | none =>
      simp only [Linked.resolve, idsOnly?_naming]
      rfl

/-- References that are alike are followed alike. -/
theorem Linked.Alike.ofExcept_resolve {Q : Contribution → Contribution → Prop}
    (h : Linked.Alike spelled alike a b) (hrefl : ∀ x, Q x x)
    (hflat : ∀ ids, c (.flat ids) = d (.flat ids))
    (hids : ∀ {f g}, alike f g → idsOnly? f = idsOnly? g)
    (hjoin : ∀ table ∈ table?, ∀ f g, a = .filter f → alike f g →
      Q (c (.join table f)) (d (.join table g)))
    (hspelled : ∀ s, spelled s → ∀ table ∈ table?, ∀ limit,
      c (.join table (naming s limit)) = c (.flat ⟨s, ∅⟩) ∧
        d (.join table (naming s limit)) = d (.flat ⟨s, ∅⟩)) :
    Q (ofExcept c (a.resolve table? entity field))
      (ofExcept d (b.resolve table? entity field)) := by
  cases h with
  | ids s =>
    show Q (c (.flat _)) (d (.flat _))
    rw [hflat]
    exact hrefl _
  | filter hfg =>
    cases table? with
    | some table => exact hjoin table rfl _ _ rfl hfg
    | none =>
      simp only [Linked.resolve, hids hfg]
      split
      · show Q (c (.flat _)) (d (.flat _))
        rw [hflat]
        exact hrefl _
      · exact hrefl _
  | respelled hs ha hb =>
    rw [ha.ofExcept_resolve fun table ht limit => (hspelled _ hs table ht limit).1,
      hb.ofExcept_resolve fun table ht limit => (hspelled _ hs table ht limit).2, hflat]
    exact hrefl _

/-- The same where a filter that names respelled identifiers is never joined. -/
theorem Linked.Alike.ofExcept_resolve_eq (h : Linked.Alike spelled alike a b)
    (hids : ∀ {f g}, alike f g → idsOnly? f = idsOnly? g)
    (hjoin : ∀ table f g, alike f g → c (.join table f) = c (.join table g))
    (hspelled : ∀ s, spelled s → table? = none) :
    ofExcept c (a.resolve table? entity field) = ofExcept c (b.resolve table? entity field) := by
  refine h.ofExcept_resolve (Q := Eq) (fun _ => rfl) (fun _ => rfl) hids
    (fun table _ f g _ => hjoin table f g) fun s hs table ht => ?_
  rw [hspelled s hs] at ht
  cases ht

end

/-! ## Filters -/

/-- Times differ in the relation of a range at most, and references to identifiers are respelled
only where a filter that names them is not joined. Parents never are. -/
structure Tolerance.Harmless (v : Tolerance) (tables : Tables) : Prop where
  moment : ∀ a b, v.moment a b → a.SameInterval b
  dataStream : ∀ s, v.dataStream s → tables.table? .dataStream = none
  foi : ∀ s, v.foi s → tables.table? .featureOfInterest = none ∨ noFeature ∈ s
  system : ∀ s, v.system s → tables.table? .system = none
  commandStream : ∀ s, v.commandStream s → tables.table? .commandStream = none

section
variable {v : Tolerance} {tables : Tables} (root table : String)

/-- The spelling of a parent does not matter. -/
theorem Linked.Alike.parentContribution_eq {F : Type} [Linkable F] [Nameable F]
    {spelled : IdSet → Prop} {alike : F → F → Prop} {a b : Linked F} (entity : Entity)
    (h : Linked.Alike spelled alike a b) (hids : ∀ {f g}, alike f g → idsOnly? f = idsOnly? g) :
    FeatureRow.parentContribution entity table a =
      FeatureRow.parentContribution entity table b := by
  have hnames : ∀ {s : IdSet} {link : Linked F}, link.Names s →
      FeatureRow.parentContribution entity table link =
        .condition? (Condition.hasId (FeatureRow.parentId table) s) := by
    intro s link hlink
    cases hlink with
    | ids => rfl
    | filter limit =>
      simp only [FeatureRow.parentContribution, idsOnly?_naming]
      rfl
  cases h with
  | ids s => rfl
  | filter hfg => simp only [FeatureRow.parentContribution, hids hfg]
  | respelled hs ha hb => rw [hnames ha, hnames hb]

theorem FeatureFilter.Alike.contribution_eq {f g : FeatureFilter} (h : f.Alike v g) :
    f.contribution root table = g.contribution root table := by
  cases h with
  | intro hids huids hparent hobservations hplace hsampled htext htime =>
    have hparent := ofOption_congr hparent fun a b hab =>
      hab.parentContribution_eq table .featureOfInterest FeatureFilter.Alike.idsOnly?_eq
    simp only [contribution, hids, huids, hparent, unsupported_congr _ _ hobservations, hplace,
      unsupported_congr _ _ hsampled, htext, htime]

theorem SystemFilter.Alike.contribution_eq {f g : SystemFilter} (h : f.Alike v g) :
    f.contribution root table = g.contribution root table := by
  cases h with
  | intro hids huids hmembers hparent hprocedure hstreams htext hplace htime =>
    have hparent := ofOption_congr hparent fun a b hab =>
      hab.parentContribution_eq table .system SystemFilter.Alike.idsOnly?_eq
    simp only [contribution, idCondition?, hids, huids, hmembers, hparent,
      unsupported_congr _ _ hprocedure, unsupported_congr _ _ hstreams, htext, hplace, htime]

theorem StreamRow.systemContribution_eq (hv : v.Harmless tables) {a b : Linked SystemFilter}
    (h : Linked.Alike v.system (SystemFilter.Alike v) a b) :
    systemContribution tables root table a = systemContribution tables root table b :=
  h.ofExcept_resolve_eq SystemFilter.Alike.idsOnly?_eq
    (fun system _ _ hfg => by simp only [hfg.contribution_eq root system]) hv.system

theorem DataStreamFilter.Alike.contribution_eq (hv : v.Harmless tables) {f g : DataStreamFilter}
    (h : f.Alike v g) (pin : Option Int64) :
    f.contribution tables root table pin = g.contribution tables root table pin := by
  cases h with
  | intro hids hsystem htext htime hnames hproperties hobservations =>
    have hsystem := ofOption_congr hsystem fun a b hab =>
      StreamRow.systemContribution_eq root table hv hab
    simp only [contribution, hids, hsystem, htext, htime, hnames, hproperties,
      unsupported_congr _ _ hobservations]

/-! ## Commands -/

theorem CommandFilter.Alike.ownContribution_eq (hv : v.Harmless tables) {f g : CommandFilter}
    (h : f.Alike v g) : f.ownContribution root table = g.ownContribution root table := by
  cases h with
  | intro hids hstream hsenders hfois htime =>
    have htime := ofOption_congr htime fun a b hab =>
      (hv.moment a b hab).contribution_eq (CommandRow.issued table) rfl root
    simp only [ownContribution, hids, hsenders, hfois, htime]

theorem CommandFilter.Alike.scopedContribution_eq (hv : v.Harmless tables) {f g : CommandFilter}
    (h : f.Alike v g) : f.scopedContribution table = g.scopedContribution table := by
  have hown := h.ownContribution_eq table table hv
  cases h with
  | intro hids hstream =>
    simp only [scopedContribution, unsupported_congr _ _ hstream, hown]

theorem StreamRow.commandsContribution_eq (hv : v.Harmless tables) {f g : CommandFilter}
    (h : f.Alike v g) :
    commandsContribution tables table f = commandsContribution tables table g := by
  have hscoped : ∀ commands, f.scopedContribution commands = g.scopedContribution commands :=
    fun commands => h.scopedContribution_eq commands hv
  simp only [commandsContribution, CommandFilter.matchingStreams, hscoped]

theorem CommandStreamFilter.Alike.contribution_eq (hv : v.Harmless tables)
    {f g : CommandStreamFilter} (h : f.Alike v g) :
    f.contribution tables root table = g.contribution tables root table := by
  cases h with
  | intro hids hsystem htext htime hnames hproperties hcommands =>
    have hsystem := ofOption_congr hsystem fun a b hab =>
      StreamRow.systemContribution_eq root table hv hab
    have hcommands := ofOption_congr hcommands fun a b hab =>
      StreamRow.commandsContribution_eq table hv hab
    simp only [contribution, hids, hsystem, htext, htime, hnames, hproperties, hcommands]

theorem CommandRow.streamContribution_eq (hv : v.Harmless tables)
    {a b : Linked CommandStreamFilter}
    (h : Linked.Alike v.commandStream (CommandStreamFilter.Alike v) a b) :
    streamContribution tables root table a = streamContribution tables root table b :=
  h.ofExcept_resolve_eq CommandStreamFilter.Alike.idsOnly?_eq
    (fun streams _ _ hfg => by simp only [hfg.contribution_eq root streams hv]) hv.commandStream

theorem CommandFilter.Alike.contribution_eq (hv : v.Harmless tables) {f g : CommandFilter}
    (h : f.Alike v g) : f.contribution tables root table = g.contribution tables root table := by
  have hown := h.ownContribution_eq root table hv
  cases h with
  | intro hids hstream =>
    have hstream := ofOption_congr hstream fun a b hab =>
      CommandRow.streamContribution_eq root table hv hab
    simp only [contribution, hown, hstream]

/-! ## Observations -/

/-- A version of a feature is valid in a way that relates to the interval between two instants. -/
def FeatureRow.isValid (table : String) (first last : Instant) (relation : PeriodRelation) :
    Condition :=
  .of (.periodRelates (validStart table) (validStop table) relation first last)

/-- The filter joins the features in `features`: it has a filter on them that does not name "no
feature". -/
def ObservationFilter.JoinsFeatures (tables : Tables) (features : String)
    (f : ObservationFilter) : Prop :=
  tables.table? .featureOfInterest = some features ∧
    ∃ g, f.foi = some (.filter g) ∧ noFeature ∉ g.internalIds

/-- Conditions by which two filters on observations have joined features be valid: each relates the
validity to the same interval as its filter says of the phenomenon time. -/
inductive ObservationFilter.Validity (tables : Tables) (f g : ObservationFilter) :
    Condition → Condition → Prop
  | intro {features : String} {first last : Instant} {relation relation' : PeriodRelation}
    (hjoins : f.JoinsFeatures tables features)
    (hf : f.phenomenonTime = some (.range first last relation))
    (hg : g.phenomenonTime = some (.range first last relation')) :
    Validity tables f g (FeatureRow.isValid features first last relation)
      (FeatureRow.isValid features first last relation')

namespace ObservationRow

theorem dataStreamContribution_eq (hv : v.Harmless tables) (pin : Option Int64)
    {a b : Option (Linked DataStreamFilter)}
    (h : Option.Rel (Linked.Alike v.dataStream (DataStreamFilter.Alike v)) a b) :
    dataStreamContribution tables root table pin a =
      dataStreamContribution tables root table pin b := by
  cases h with
  | none => rfl
  | some hab =>
    exact hab.ofExcept_resolve_eq DataStreamFilter.Alike.idsOnly?_eq
      (fun streams _ _ hfg => by simp only [hfg.contribution_eq root streams hv pin]) hv.dataStream

theorem timesContribution_eq (hv : v.Harmless tables) {p p' r r' : Option TimeFilter}
    (hp : Option.Rel v.moment p p') (hr : Option.Rel v.moment r r') :
    timesContribution root table p r = timesContribution root table p' r' := by
  have htime : ∀ name {o o' : Option TimeFilter}, Option.Rel v.moment o o' →
      ofOption (fun time => time.contribution root (timed table name)) o =
        ofOption (fun time => time.contribution root (timed table name)) o' := by
    intro name o o' h
    exact ofOption_congr h fun a b hab =>
      (hv.moment a b hab).contribution_eq (timed table name) rfl root
  rw [timesContribution, timesContribution, htime _ hp, htime _ hr]

/-- The validity of joined features during a phenomenon time that is a range. -/
theorem agree_validTimeContribution {features : String} {P : Condition → Condition → Prop}
    {p q : Option TimeFilter} (h : Option.Rel TimeFilter.SameInterval p q)
    (hP : ∀ first last relation relation', p = some (.range first last relation) →
      q = some (.range first last relation') → P (FeatureRow.isValid features first last relation)
        (FeatureRow.isValid features first last relation')) :
    (ofOption (FeatureRow.validTimeContribution root features)
        (p.filter fun time => !time.isLatest)).Agree P
      (ofOption (FeatureRow.validTimeContribution root features)
        (q.filter fun time => !time.isLatest)) := by
  cases h with
  | none => exact .refl _
  | @some a b hab =>
    unfold TimeFilter.SameInterval at hab
    cases a with
    | latest =>
      cases b with
      | latest => exact .refl _
      | range => cases hab
    | range first last relation =>
      cases b with
      | latest => cases hab
      | range first' last' relation' =>
        cases hab
        show (ofExcept _ (if first ≤ last then _ else _)).Agree P
          (ofExcept _ (if first ≤ last then _ else _))
        split
        · exact .condition (hP _ _ _ _ rfl rfl)
        · exact .refl _

/-- Where features are joined, their validity follows the phenomenon time. Nothing else of what a
reference to features contributes does. -/
theorem agree_foiContribution (hv : v.Harmless tables) {P : Condition → Condition → Prop}
    {p q : Option TimeFilter} (hpq : Option.Rel v.moment p q) {a b : Linked FeatureFilter}
    (h : Linked.Alike v.foi (FeatureFilter.Alike v) a b)
    (hP : ∀ features filter first last relation relation',
      tables.table? .featureOfInterest = some features → a = .filter filter →
      noFeature ∉ filter.internalIds → p = some (.range first last relation) →
      q = some (.range first last relation') → P (FeatureRow.isValid features first last relation)
        (FeatureRow.isValid features first last relation')) :
    (foiContribution tables root table p a).Agree P (foiContribution tables root table q b) := by
  have hsame : Option.Rel TimeFilter.SameInterval p q := by
    cases hpq with
    | none => exact .none
    | some hab => exact .some (hv.moment _ _ hab)
  refine h.ofExcept_resolve .refl (fun _ => rfl) FeatureFilter.Alike.idsOnly?_eq ?_ ?_
  · intro features ht f g ha hfg
    have hcontribution := hfg.contribution_eq root features
    have hids := hfg.idsOnly?_eq
    have hinternal : f.internalIds = g.internalIds := by
      cases hfg
      assumption
    simp only [hcontribution, hids, ← hinternal]
    split
    · exact .refl _
    · rename_i hno
      refine (Agree.refl _).append ((Agree.refl _).append ?_)
      exact agree_validTimeContribution root hsame fun first last relation relation' =>
        hP features f first last relation relation' ht ha hno
  · intro s hs features ht limit
    have hno : noFeature ∈ s := by
      rcases hv.foi s hs with hnone | hno
      · rw [hnone] at ht
        cases ht
      · exact hno
    have hnaming : (naming s limit : FeatureFilter).internalIds = s := rfl
    simp only [hnaming, if_pos hno, idsOnly?_naming, and_self]

end ObservationRow

theorem ObservationFilter.Alike.agree_foi (hv : v.Harmless tables) {f g : ObservationFilter}
    (h : f.Alike v g) :
    (ofOption (ObservationRow.foiContribution tables root table f.phenomenonTime) f.foi).Agree
      (f.Validity tables g)
      (ofOption (ObservationRow.foiContribution tables root table g.phenomenonTime) g.foi) := by
  obtain ⟨-, hfoi, hphenomenon, -, -⟩ := h
  generalize ha : f.foi = a at hfoi
  generalize hb : g.foi = b at hfoi
  cases hfoi with
  | none => exact .refl _
  | some hab =>
    refine ObservationRow.agree_foiContribution root table hv hphenomenon hab ?_
    rintro features filter first last relation relation' ht rfl hno hp hq
    exact .intro ⟨ht, filter, ha, hno⟩ hp hq

/-- **Filters on observations that differ in harmless places contribute the same, but for the
validity of joined features.** -/
theorem ObservationFilter.Alike.agree_contribution (hv : v.Harmless tables)
    {f g : ObservationFilter} (h : f.Alike v g) :
    (f.contribution tables root table).Agree (f.Validity tables g)
      (g.contribution tables root table) := by
  have hfoi := h.agree_foi root table hv
  obtain ⟨hstream, -, hphenomenon, hresult, -⟩ := h
  have hstreams := ObservationRow.dataStreamContribution_eq root table hv none
    hstream
  have htimes := ObservationRow.timesContribution_eq root table hv hphenomenon
    hresult
  exact (Agree.of_eq hstreams).append (hfoi.append ((Agree.of_eq htimes).append (.refl _)))

/-- The same of filters for statistics. -/
theorem StatisticsFilter.Alike.agree_contribution (hv : v.Harmless tables)
    {f g : StatisticsFilter} (h : f.Alike v g) :
    (f.contribution tables root table).Agree (f.observations.Validity tables g.observations)
      (g.contribution tables root table) := by
  obtain ⟨hobservations, hpin, hfeature, -⟩ := h
  have hfoi := hobservations.agree_foi root table hv
  obtain ⟨hstream, -, hphenomenon, hresult, -⟩ := hobservations
  have hstreams := ObservationRow.dataStreamContribution_eq root table hv
    f.dataStreamId hstream
  have htimes := ObservationRow.timesContribution_eq root table hv hphenomenon
    hresult
  simp only [StatisticsFilter.contribution, ← hpin, ← hfeature]
  exact (Agree.of_eq hstreams).append
    (hfoi.append ((Agree.refl _).append ((Agree.of_eq htimes).append (.refl _))))

end

/-! ## Filters of any entity -/

/-- The filter on observations that a filter on observations or for statistics holds. -/
def Filter.observations? : Filter → Option ObservationFilter
  | observation f => some f
  | observationStatistics f => some f.observations
  | _ => none

theorem Filter.Alike.phenomenonTime_rel {v : Tolerance} {f g : Filter} (h : f.Alike v g)
    {a b : ObservationFilter} (ha : a ∈ f.observations?) (hb : b ∈ g.observations?) :
    Option.Rel v.moment a.phenomenonTime b.phenomenonTime := by
  cases h with
  | observation h =>
    cases ha
    cases hb
    cases h
    assumption
  | observationStatistics h =>
    cases ha
    cases hb
    obtain ⟨hobservations, -, -, -⟩ := h
    cases hobservations
    assumption
  | dataStream | featureOfInterest | system | commandStream | command => cases ha

/-- Conditions by which two filters have joined features be valid during the phenomenon time. -/
def Filter.Validity (tables : Tables) (f g : Filter) (c d : Condition) : Prop :=
  ∃ a ∈ f.observations?, ∃ b ∈ g.observations?, a.Validity tables b c d

section
variable {v : Tolerance} {tables : Tables} (root table : String) {f g : Filter}

/-- **Filters that differ in harmless places contribute the same, but for the validity of joined
features.** -/
theorem Filter.Alike.agree_contribution (hv : v.Harmless tables) (h : f.Alike v g) :
    (f.contribution tables root table).Agree (f.Validity tables g)
      (g.contribution tables root table) := by
  cases h with
  | observation h =>
    exact (h.agree_contribution root table hv).mono fun c d hcd => ⟨_, rfl, _, rfl, hcd⟩
  | observationStatistics h =>
    exact (h.agree_contribution root table hv).mono fun c d hcd => ⟨_, rfl, _, rfl, hcd⟩
  | dataStream h => exact .of_eq (h.contribution_eq root table hv none)
  | featureOfInterest h => exact .of_eq (h.contribution_eq root table)
  | system h => exact .of_eq (h.contribution_eq root table)
  | commandStream h => exact .of_eq (h.contribution_eq root table hv)
  | command h => exact .of_eq (h.contribution_eq root table hv)

/-- Where the phenomenon times agree or no features are joined, they contribute the same. -/
theorem Filter.Alike.contribution_eq (hv : v.Harmless tables) (h : f.Alike v g)
    (htime : ∀ a ∈ f.observations?, ∀ b ∈ g.observations?, ∀ features,
      a.JoinsFeatures tables features → a.phenomenonTime = b.phenomenonTime) :
    f.contribution tables root table = g.contribution tables root table := by
  refine (h.agree_contribution root table hv).eq ?_
  rintro c d ⟨a, ha, b, hb, hvalid⟩
  obtain ⟨hjoins, hp, hq⟩ := hvalid
  rw [htime a ha b hb _ hjoins, hq] at hp
  cases hp
  rfl

/-- Filters with the same contribution, entity and limit have the same query, or none for the same
reason. -/
theorem compile_congr (hentity : f.entity = g.entity) (hlimit : f.limit = g.limit)
    (h : ∀ table, f.contribution tables table table = g.contribution tables table table) :
    compile tables f = compile tables g := by
  simp only [compile, Filter.queryOver, hentity, hlimit, h]

end

end ObservationQuery
