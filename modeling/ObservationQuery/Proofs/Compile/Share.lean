import ObservationQuery.Proofs.Compile.Latest
import ObservationQuery.Proofs.Compile.Scope

/-!
# The shares of filters in the conditions of a query

A filter places conditions on the rows of its own table, and the filter behind each of its joins
places conditions on the rows of the joined table.

* `Share` — the conditions of one filter, and the table of the rows they are on.
* `Filter.alone` — a filter without the references that it follows by a join.
* `Filter.shares` — the share of a filter itself, before those of the filters behind its joins in
  the order of the joins.
* `Contribution.Splits` — the conditions of a contribution are those of another one and of shares.

Principal results: each way to build a contribution has one lemma, as `Splits.append`; each filter
has one, as `DataStreamFilter.splits_contribution`. From these, for a filter of any entity:
`Filter.mem_conditions_iff` — its conditions are those of its shares; `Filter.reads_shares` — those
of a share read its table and no other; `Filter.map_table_shares` — the tables of the shares are its
own and those it joins.
-/

namespace ObservationQuery

/-- The conditions that one filter places on the rows of its table. -/
structure Share where
  table : String
  conditions : List Condition

/-- The conditions of a share read its table and no other. -/
structure Share.Reads (s : Share) : Prop where
  table : isTableName s.table = true
  conditions : ∀ c ∈ s.conditions, c.Reads [s.table]

/-- The conditions of a contribution. -/
def Contribution.conditions (c : Contribution) : List Condition :=
  c.clauses.flatMap Clause.conditions

/-! ## The shares of a filter -/

/-- Whether a reference is followed by a join. -/
def Linked.isJoined {F : Type} (tables : Tables) (entity : Entity) : Linked F → Bool
  | ids _ => false
  | filter _ => (tables.table? entity).isSome

/-- The share of the systems that some streams refer to. -/
def StreamRow.systemShares (tables : Tables) (root : String) : Linked SystemFilter → List Share :=
  Linked.behind tables .system "system"
    fun system filter => [⟨system, (filter.contribution root system).conditions⟩]

namespace DataStreamFilter

/-- The filter without a join. -/
def alone (tables : Tables) (f : DataStreamFilter) : DataStreamFilter :=
  { f with system := f.system.filter fun link => !link.isJoined tables .system }

/-- The shares of the filters behind the joins. -/
def linkedShares (tables : Tables) (root : String) (f : DataStreamFilter) : List Share :=
  f.system.elim [] (StreamRow.systemShares tables root)

/-- The share of the filter, and those behind its joins. -/
def shares (tables : Tables) (root table : String) (pin : Option Int64) (f : DataStreamFilter) :
    List Share :=
  ⟨table, ((f.alone tables).contribution tables root table pin).conditions⟩ ::
    f.linkedShares tables root

end DataStreamFilter

namespace CommandStreamFilter

/-- The filter without a join. -/
def alone (tables : Tables) (f : CommandStreamFilter) : CommandStreamFilter :=
  { f with system := f.system.filter fun link => !link.isJoined tables .system }

/-- The shares of the filters behind the joins. -/
def linkedShares (tables : Tables) (root : String) (f : CommandStreamFilter) : List Share :=
  f.system.elim [] (StreamRow.systemShares tables root)

/-- The share of the filter, and those behind its joins. -/
def shares (tables : Tables) (root table : String) (f : CommandStreamFilter) : List Share :=
  ⟨table, ((f.alone tables).contribution tables root table).conditions⟩ ::
    f.linkedShares tables root

end CommandStreamFilter

namespace CommandFilter

/-- The filter without its joins. -/
def alone (tables : Tables) (f : CommandFilter) : CommandFilter :=
  { f with commandStream := f.commandStream.filter fun link =>
      !link.isJoined tables .commandStream }

/-- The shares of the filters behind the joins. -/
def linkedShares (tables : Tables) (root : String) (f : CommandFilter) : List Share :=
  f.commandStream.elim [] (Linked.behind tables .commandStream "commandStream"
    fun streams filter => filter.shares tables root streams)

end CommandFilter

namespace ObservationRow

/-- The shares of the data streams that some observations refer to, and of what these refer to. A
pinned stream belongs to the share of the streams. -/
def dataStreamShares (tables : Tables) (root : String) (pin : Option Int64) :
    Linked DataStreamFilter → List Share :=
  Linked.behind tables .dataStream "dataStream"
    fun streams filter => filter.shares tables root streams pin

/-- Whether the reference to features is followed by a join. -/
def joinsFeatures (tables : Tables) (link : Linked FeatureFilter) : Bool :=
  !link.namesNoFeature && link.isJoined tables .featureOfInterest

/-- The share of the features that some observations refer to: the criteria of the filter and the
validity during the phenomenon time. -/
def foiShares (tables : Tables) (root : String) (phenomenonTime : Option TimeFilter)
    (link : Linked FeatureFilter) : List Share :=
  if link.namesNoFeature then []
  else
    link.behind tables .featureOfInterest "foi" fun features filter =>
      [⟨features, (filter.contribution root features ++
        .ofOption (FeatureRow.validTimeContribution root features)
          (phenomenonTime.filter fun time => !time.isLatest)).conditions⟩]

end ObservationRow

open ObservationRow

namespace ObservationFilter

/-- The filter without its joins. -/
def alone (tables : Tables) (f : ObservationFilter) : ObservationFilter :=
  { f with
    dataStream := f.dataStream.filter fun link => !link.isJoined tables .dataStream
    foi := f.foi.filter fun link => !joinsFeatures tables link }

/-- The shares of the filters behind the joins. -/
def linkedShares (tables : Tables) (root : String) (pin : Option Int64) (f : ObservationFilter) :
    List Share :=
  f.dataStream.elim [] (dataStreamShares tables root pin) ++
    f.foi.elim [] (foiShares tables root f.phenomenonTime)

/-- A pinned stream, unless it narrows the joined streams. -/
def ownPin (tables : Tables) (pin : Option Int64) (f : ObservationFilter) : Option Int64 :=
  if f.dataStream.any (Linked.isJoined tables .dataStream) then none else pin

end ObservationFilter

/-- The filter without its joins, and without the pinned stream if this narrows joined streams. -/
def StatisticsFilter.alone (tables : Tables) (f : StatisticsFilter) : StatisticsFilter :=
  { f with
    observations := f.observations.alone tables
    dataStreamId := f.observations.ownPin tables f.dataStreamId }

namespace Filter

/-- The filter without its joins. -/
def alone (tables : Tables) : Filter → Filter
  | observation f => observation (f.alone tables)
  | observationStatistics f => observationStatistics (f.alone tables)
  | dataStream f => dataStream (f.alone tables)
  | featureOfInterest f => featureOfInterest f
  | system f => system f
  | commandStream f => commandStream (f.alone tables)
  | command f => command (f.alone tables)

/-- The shares of the filters behind the joins. -/
def linkedShares (tables : Tables) (root : String) : Filter → List Share
  | observation f => f.linkedShares tables root none
  | observationStatistics f => f.observations.linkedShares tables root f.dataStreamId
  | dataStream f => f.linkedShares tables root
  | featureOfInterest _ => []
  | system _ => []
  | commandStream f => f.linkedShares tables root
  | command f => f.linkedShares tables root

/-- The share of a filter whose rows are in `table`, and those of the filters behind its joins. -/
def shares (tables : Tables) (table : String) (f : Filter) : List Share :=
  ⟨table, ((f.alone tables).contribution tables table table).conditions⟩ ::
    f.linkedShares tables table

end Filter

variable {tables : Tables} {root table : String}

/-! ## References that are not joined -/

namespace Linked

variable {F : Type} [Linkable F] {link : Linked F} {entity : Entity} {field : String}

theorem isJoined_of_resolve_flat {ids : LinkIds}
    (h : link.resolve (tables.table? entity) entity field = .ok (.flat ids)) :
    link.isJoined tables entity = false := by
  obtain ⟨_, rfl, -⟩ | ⟨_, rfl, hnone, -⟩ := resolve_eq_flat.mp h
  · rfl
  · rw [isJoined, hnone]
    rfl

theorem joins_of_not_isJoined {on : String → Predicate} {inner : String → F → List Join}
    (h : link.isJoined tables entity = false) : link.joins tables entity field on inner = [] := by
  unfold joins
  split
  · rename_i table nested hres
    obtain ⟨rfl, htable⟩ := resolve_eq_join.mp hres
    rw [isJoined, htable] at h
    cases h
  · rfl

/-- The shares behind a reference are on the tables that it joins. -/
theorem map_table_behind {on : String → Predicate} {inner : String → F → List Share}
    {js : String → F → List Join}
    (h : ∀ t f, (inner t f).map Share.table = t :: (js t f).map Join.table) :
    (link.behind tables entity field inner).map Share.table =
      (link.joins tables entity field on js).map Join.table := by
  unfold behind joins
  cases link.resolve (tables.table? entity) entity field with
  | error e => rfl
  | ok resolution =>
    cases resolution with
    | join t f => exact h t f
    | flat ids => rfl

end Linked

/-- Where only values are kept that list nothing, nothing is listed. -/
theorem Option.elim_filter_nil {α β : Type} {o : Option α} {p : α → Bool} {f : α → List β}
    (h : ∀ a, p a = false → f a = []) : (o.filter fun a => !p a).elim [] f = [] := by
  cases o with
  | none => rfl
  | some a =>
    rw [Option.filter_some]
    cases hp : p a with
    | false => exact h a hp
    | true => rfl

theorem DataStreamFilter.joins_alone (f : DataStreamFilter) :
    (f.alone tables).joins tables table = [] :=
  Option.elim_filter_nil fun _ => Linked.joins_of_not_isJoined

theorem CommandStreamFilter.joins_alone (f : CommandStreamFilter) :
    (f.alone tables).joins tables table = [] :=
  Option.elim_filter_nil fun _ => Linked.joins_of_not_isJoined

theorem ObservationFilter.joins_alone (f : ObservationFilter) :
    (f.alone tables).joins tables table = [] := by
  refine List.append_eq_nil_iff.mpr ⟨?_, ?_⟩
  · exact Option.elim_filter_nil fun _ => Linked.joins_of_not_isJoined
  · refine Option.elim_filter_nil fun link hlink => ?_
    unfold foiJoins
    cases hzero : link.namesNoFeature with
    | true => rfl
    | false =>
      rw [joinsFeatures, hzero] at hlink
      exact Linked.joins_of_not_isJoined hlink

theorem Filter.joins_alone : ∀ f : Filter, (f.alone tables).joins tables table = []
  | observation f => f.joins_alone
  | observationStatistics f => f.observations.joins_alone
  | dataStream f => f.joins_alone
  | featureOfInterest _ => rfl
  | system _ => rfl
  | commandStream f => f.joins_alone
  | command _ => Option.elim_filter_nil fun _ => Linked.joins_of_not_isJoined

/-! ## Contributions -/

open Contribution

/-- What is contributed without a join to the rows of one table is a share. -/
theorem Share.Reads.ofContribution {c : Contribution} {joins : List Join} {texts : List String}
    (ht : isTableName table = true) (h : c.Reads [table]) (hb : c.Brings joins texts)
    (hjoins : joins = []) (hs : c.Succeeds) : Share.Reads ⟨table, c.conditions⟩ := by
  refine ⟨ht, fun d hd => ?_⟩
  have hread := Clause.ListRead.reads h d hd
  rwa [hb.joins hs, hjoins] at hread

namespace Contribution

variable {a b c own other : Contribution} {ss ts : List Share} {α : Type}

theorem conditions_append (h : a.Succeeds) : (a ++ b).conditions = a.conditions ++ b.conditions := by
  rw [conditions, clauses_append h, List.flatMap_append]
  rfl

/-- Unless a criterion failed, the conditions are those of the contribution `own` and of the
shares, and those of a share read its table only. -/
structure Splits (c : Contribution) (tables : Tables) (own : Contribution) (ss : List Share) :
    Prop where
  succeeds : c.Succeeds → own.Succeeds
  conditions : c.Succeeds → ∀ d : Condition,
    d ∈ c.conditions ↔ d ∈ own.conditions ∨ ∃ s ∈ ss, d ∈ s.conditions
  reads : tables.invalidEntry? = none → c.Succeeds → ∀ s ∈ ss, s.Reads

namespace Splits

/-- What has no shares behind joins. -/
theorem itself : c.Splits tables c [] :=
  ⟨id, fun _ _ => by simp, fun _ _ _ hs => absurd hs List.not_mem_nil⟩

theorem fail (e : CompileError) : (fail e).Splits tables own ss :=
  ⟨fun h => absurd h (not_succeeds_fail e), fun h => absurd h (not_succeeds_fail e),
    fun _ h => absurd h (not_succeeds_fail e)⟩

theorem append (ha : a.Splits tables own ss) (hb : b.Splits tables other ts) :
    (a ++ b).Splits tables (own ++ other) (ss ++ ts) := by
  refine ⟨fun h => ?_, fun h d => ?_, fun hT h s hs => ?_⟩
  · obtain ⟨hsa, hsb⟩ := succeeds_append.mp h
    exact succeeds_append.mpr ⟨ha.succeeds hsa, hb.succeeds hsb⟩
  · obtain ⟨hsa, hsb⟩ := succeeds_append.mp h
    rw [conditions_append hsa, conditions_append (ha.succeeds hsa), List.mem_append,
      List.mem_append, ha.conditions hsa, hb.conditions hsb]
    simp only [List.mem_append, or_and_right, exists_or]
    exact or_or_or_comm
  · obtain ⟨hsa, hsb⟩ := succeeds_append.mp h
    rcases List.mem_append.mp hs with hs | hs
    · exact ha.reads hT hsa s hs
    · exact hb.reads hT hsb s hs

/-- What follows stays as it is. -/
theorem before (h : a.Splits tables own ss) (b : Contribution) :
    (a ++ b).Splits tables (own ++ b) ss := by
  have hboth := h.append (itself (c := b))
  rwa [List.append_nil] at hboth

/-- What is contributed after a join belongs to the shares. -/
theorem join {j : Join} (h : c.Splits tables own ss)
    (hown : tables.invalidEntry? = none → own.Succeeds → Share.Reads ⟨table, own.conditions⟩) :
    (clause (.join j) ++ c).Splits tables {} (⟨table, own.conditions⟩ :: ss) := by
  refine ⟨fun _ => rfl, fun hs d => ?_, fun hT hs => ?_⟩
  · have hc := (succeeds_append.mp hs).2
    -- The join itself is no condition.
    have hjoin : (clause (.join j) ++ c).conditions = c.conditions := rfl
    have hnone : d ∉ Contribution.conditions {} := List.not_mem_nil
    rw [hjoin, h.conditions hc d]
    simp [hnone]
  · have hc := (succeeds_append.mp hs).2
    exact List.forall_mem_cons.mpr ⟨hown hT (h.succeeds hc), h.reads hT hc⟩

theorem ofOption {f : α → Contribution} {o : Option α} {p : α → Bool} {ss : α → List Share}
    (h : ∀ a, (f a).Splits tables (if p a then {} else f a) (ss a)) :
    (ofOption f o).Splits tables (.ofOption f (o.filter fun a => !p a)) (o.elim [] ss) := by
  cases o with
  | none => exact itself
  | some a =>
    have ha := h a
    rw [Option.filter_some]
    cases hp : p a with
    | false =>
      rw [hp] at ha
      exact ha
    | true =>
      rw [hp] at ha
      exact ha

end Splits

end Contribution

/-- What a reference contributes is a share where it is joined, and stays as it is elsewhere. -/
theorem Linked.splits_resolve {F : Type} [Linkable F] {link : Linked F} {entity : Entity}
    {field : String} {c : Resolution F → Contribution} {ss : String → F → List Share}
    (hjoin : ∀ t f, link = .filter f → tables.table? entity = some t →
      (c (.join t f)).Splits tables {} (ss t f)) :
    (ofExcept c (link.resolve (tables.table? entity) entity field)).Splits tables
      (if link.isJoined tables entity then {}
        else ofExcept c (link.resolve (tables.table? entity) entity field))
      (link.behind tables entity field ss) := by
  unfold behind
  cases hres : link.resolve (tables.table? entity) entity field with
  | error e => exact .fail e
  | ok resolution =>
    cases resolution with
    | join t f =>
      obtain ⟨rfl, htable⟩ := resolve_eq_join.mp hres
      have hjoined : (filter f).isJoined tables entity = true := by rw [isJoined, htable]; rfl
      rw [if_pos hjoined]
      exact hjoin t f rfl htable
    | flat ids =>
      have hflat := isJoined_of_resolve_flat hres
      rw [if_neg (by rw [hflat]; exact Bool.false_ne_true)]
      exact .itself

/-! ## Streams -/

/-- The criteria on a joined system are the share of the systems. -/
theorem StreamRow.splits_systemContribution (link : Linked SystemFilter) :
    (systemContribution tables root table link).Splits tables
      (if link.isJoined tables .system then {} else systemContribution tables root table link)
      (systemShares tables root link) := by
  refine Linked.splits_resolve fun system filter _ hsystem => ?_
  refine .join .itself fun hT hs => ?_
  have ht := Tables.isTableName_of_table? hT hsystem
  exact .ofContribution ht (filter.reads_contribution ht (List.mem_singleton_self system))
    filter.brings_contribution rfl hs

namespace DataStreamFilter

theorem splits_contribution (pin : Option Int64) (f : DataStreamFilter) :
    (f.contribution tables root table pin).Splits tables
      ((f.alone tables).contribution tables root table pin) (f.linkedShares tables root) :=
  .before (.ofOption StreamRow.splits_systemContribution) _

theorem reads_alone (pin : Option Int64) (f : DataStreamFilter)
    (ht : tables.table? .dataStream = some table) (hT : tables.invalidEntry? = none)
    (hs : ((f.alone tables).contribution tables root table pin).Succeeds) :
    Share.Reads ⟨table, ((f.alone tables).contribution tables root table pin).conditions⟩ := by
  have hname := Tables.isTableName_of_table? hT ht
  have hread : ((f.alone tables).contribution tables root table pin).Reads [table] :=
    (f.alone tables).reads_contribution hT hname (List.mem_singleton_self table) pin
  exact .ofContribution hname hread ((f.alone tables).brings_contribution pin) f.joins_alone hs

end DataStreamFilter

namespace CommandStreamFilter

theorem splits_contribution (f : CommandStreamFilter) :
    (f.contribution tables root table).Splits tables
      ((f.alone tables).contribution tables root table) (f.linkedShares tables root) :=
  .before (.ofOption StreamRow.splits_systemContribution) _

theorem reads_alone (f : CommandStreamFilter)
    (ht : tables.table? .commandStream = some table) (hT : tables.invalidEntry? = none)
    (hs : ((f.alone tables).contribution tables root table).Succeeds) :
    Share.Reads ⟨table, ((f.alone tables).contribution tables root table).conditions⟩ := by
  have hname := Tables.isTableName_of_table? hT ht
  have hread : ((f.alone tables).contribution tables root table).Reads [table] :=
    (f.alone tables).reads_contribution hT hname (List.mem_singleton_self table)
  exact .ofContribution hname hread (f.alone tables).brings_contribution f.joins_alone hs

end CommandStreamFilter

/-! ## Commands -/

theorem CommandFilter.splits_contribution (f : CommandFilter) :
    (f.contribution tables root table).Splits tables
      ((f.alone tables).contribution tables root table) (f.linkedShares tables root) := by
  refine .before (.ofOption fun link => ?_) _
  refine Linked.splits_resolve fun streams filter _ hstreams => ?_
  exact .join filter.splits_contribution (filter.reads_alone hstreams)

/-! ## Observations -/

namespace ObservationRow

theorem splits_dataStreamContribution (pin : Option Int64) (f : ObservationFilter) :
    (dataStreamContribution tables root table pin f.dataStream).Splits tables
      (dataStreamContribution tables root table (f.ownPin tables pin)
        (f.alone tables).dataStream)
      (f.dataStream.elim [] (dataStreamShares tables root pin)) := by
  unfold ObservationFilter.ownPin ObservationFilter.alone
  cases f.dataStream with
  | none => exact .itself
  | some link =>
    have h : (dataStreamContribution tables root table pin (some link)).Splits tables
        (if link.isJoined tables .dataStream then {}
          else dataStreamContribution tables root table pin (some link))
        (dataStreamShares tables root pin link) := by
      refine Linked.splits_resolve fun streams filter _ hstreams => ?_
      exact .join (filter.splits_contribution pin) (filter.reads_alone pin hstreams)
    -- A pinned stream narrows the joined streams, so nothing of it stays with the observations.
    have hnone : dataStreamContribution tables root table none none = {} := rfl
    cases hjoined : link.isJoined tables .dataStream with
    | true => simpa [Option.filter_some, hjoined, hnone] using h
    | false => simpa [Option.filter_some, hjoined] using h

/-- The criteria on joined features are the share of the features. -/
theorem splits_foiContribution (time : Option TimeFilter) (link : Linked FeatureFilter) :
    (foiContribution tables root table time link).Splits tables
      (if joinsFeatures tables link then {} else foiContribution tables root table time link)
      (foiShares tables root time link) := by
  unfold joinsFeatures foiShares
  cases hzero : link.namesNoFeature with
  | true =>
    -- A filter that names no feature is never joined.
    exact .itself
  | false =>
    refine Linked.splits_resolve fun features filter hlink hfeatures => ?_
    have hmem : noFeature ∉ filter.internalIds := by
      rw [hlink] at hzero
      simpa [Linked.namesNoFeature] using hzero
    dsimp only
    rw [if_neg hmem]
    refine .join .itself fun hT hs => ?_
    have ht := Tables.isTableName_of_table? hT hfeatures
    have hrow := List.mem_singleton_self features
    have htime : (ofOption (FeatureRow.validTimeContribution root features)
        (time.filter fun t => !t.isLatest)).Brings [] [] :=
      .ofOption_nothing fun t _ => FeatureRow.brings_validTimeContribution t
    refine .ofContribution ht ?_ (filter.brings_contribution.append htime) rfl hs
    exact .append (filter.reads_contribution ht hrow)
      (.ofOption fun t _ => FeatureRow.reads_validTimeContribution ht hrow t)

end ObservationRow

theorem ObservationFilter.splits_contribution (f : ObservationFilter) :
    (f.contribution tables root table).Splits tables
      ((f.alone tables).contribution tables root table) (f.linkedShares tables root none) := by
  have hpin : f.ownPin tables none = none := ite_self none
  have hstream : (dataStreamContribution tables root table none f.dataStream).Splits tables
      (dataStreamContribution tables root table (f.ownPin tables none)
        (f.alone tables).dataStream) _ := splits_dataStreamContribution none f
  rw [hpin] at hstream
  exact .append hstream (.before (.ofOption (splits_foiContribution f.phenomenonTime)) _)

theorem StatisticsFilter.splits_contribution (f : StatisticsFilter) :
    (f.contribution tables root table).Splits tables
      ((f.alone tables).contribution tables root table)
      (f.observations.linkedShares tables root f.dataStreamId) :=
  .append (splits_dataStreamContribution f.dataStreamId f.observations)
    (.before (.ofOption (splits_foiContribution f.observations.phenomenonTime)) _)

/-! ## Filters of any entity -/

namespace Filter

/-- **Unless a criterion fails, the conditions of a filter are those that it has without its joins
and those of the filters behind these.** -/
theorem splits_contribution : ∀ f : Filter,
    (f.contribution tables root table).Splits tables
      ((f.alone tables).contribution tables root table) (f.linkedShares tables root)
  | observation f => f.splits_contribution
  | observationStatistics f => f.splits_contribution
  | dataStream f => f.splits_contribution none
  | featureOfInterest _ => .itself
  | system _ => .itself
  | commandStream f => f.splits_contribution
  | command f => f.splits_contribution

/-- The conditions of a filter are those of its shares. -/
theorem mem_conditions_iff {f : Filter} (hs : (f.contribution tables table table).Succeeds)
    {c : Condition} : c ∈ (f.contribution tables table table).conditions ↔
      ∃ s ∈ f.shares tables table, c ∈ s.conditions := by
  rw [f.splits_contribution.conditions hs, shares, List.exists_mem_cons_iff]

/-- The conditions of each share read its table and no other. -/
theorem reads_shares {f : Filter} (hT : tables.invalidEntry? = none)
    (ht : tables.table? f.entity = some table)
    (hs : (f.contribution tables table table).Succeeds) :
    ∀ s ∈ f.shares tables table, s.Reads := by
  have hname := Tables.isTableName_of_table? hT ht
  have hsplits : (f.contribution tables table table).Splits tables _ _ := f.splits_contribution
  have hread : ((f.alone tables).contribution tables table table).Reads [table] :=
    (f.alone tables).reads_contribution hT hname (List.mem_singleton_self table)
  refine List.forall_mem_cons.mpr ⟨?_, hsplits.reads hT hs⟩
  exact .ofContribution hname hread (f.alone tables).brings_contribution f.joins_alone
    (hsplits.succeeds hs)

end Filter

/-! ## The tables of the shares -/

theorem StreamRow.map_table_systemShares (link : Linked SystemFilter) :
    (systemShares tables root link).map Share.table =
      (systemJoins tables table link).map Join.table :=
  Linked.map_table_behind fun _ _ => rfl

theorem Option.map_table_elim {α : Type} {o : Option α} {ss : α → List Share}
    {js : α → List Join} (h : ∀ a, (ss a).map Share.table = (js a).map Join.table) :
    (o.elim [] ss).map Share.table = (o.elim [] js).map Join.table := by
  cases o with
  | none => rfl
  | some a => exact h a

theorem DataStreamFilter.map_table_shares (pin : Option Int64) (f : DataStreamFilter) :
    (f.shares tables root table pin).map Share.table =
      table :: (f.joins tables table).map Join.table :=
  congrArg _ (Option.map_table_elim StreamRow.map_table_systemShares)

theorem CommandStreamFilter.map_table_shares (f : CommandStreamFilter) :
    (f.shares tables root table).map Share.table =
      table :: (f.joins tables table).map Join.table :=
  congrArg _ (Option.map_table_elim StreamRow.map_table_systemShares)

theorem ObservationRow.map_table_foiShares (time : Option TimeFilter)
    (link : Linked FeatureFilter) : (foiShares tables root time link).map Share.table =
      (foiJoins tables table link).map Join.table := by
  unfold foiShares foiJoins
  split
  · rfl
  · exact Linked.map_table_behind fun _ _ => rfl

theorem ObservationFilter.map_table_linkedShares (pin : Option Int64) (f : ObservationFilter) :
    (f.linkedShares tables root pin).map Share.table =
      (f.joins tables table).map Join.table := by
  rw [linkedShares, joins, List.map_append, List.map_append]
  refine congrArg₂ _ (Option.map_table_elim fun link => ?_) (Option.map_table_elim fun link => ?_)
  · exact Linked.map_table_behind fun streams filter => filter.map_table_shares pin
  · exact map_table_foiShares f.phenomenonTime link

/-- **The tables of the shares are the table of the filter and those that it joins, in order.** -/
theorem Filter.map_table_shares (f : Filter) : (f.shares tables table).map Share.table =
    table :: (f.joins tables table).map Join.table := by
  refine congrArg (table :: ·) ?_
  cases f with
  | observation f => exact f.map_table_linkedShares none
  | observationStatistics f => exact f.observations.map_table_linkedShares f.dataStreamId
  | dataStream f => exact Option.map_table_elim StreamRow.map_table_systemShares
  | featureOfInterest | system => rfl
  | commandStream f => exact Option.map_table_elim StreamRow.map_table_systemShares
  | command f =>
    refine Option.map_table_elim fun link => ?_
    exact Linked.map_table_behind fun streams filter => filter.map_table_shares

end ObservationQuery
