import ObservationQuery.Proofs.Compile.Series
import ObservationQuery.Proofs.Joins
import ObservationQuery.Proofs.Sql.Rows

/-!
# How often a query finds an observation

A query finds an observation once for each match of it. The data stream of an observation and the
system of the stream have one row each, but the feature of an observation has a row for each of its
versions, all with the identifier of the feature.

* `Database.Versions` — two matches have different versions of one feature.
* `Query.FixesVersion` — the identifier tells the features of a joined table apart, or the query
  asks for the newest version of each.
* `Query.found` — the rows of the table of a query that have a match.

Principal result: `occurrences_of_compile` — two matches of one observation have different versions
of its feature; where the query fixes the version, each observation is found once, and the number
that is counted is that of the observations found.
-/

namespace ObservationQuery

open Database

variable {Row Value : Type} [DecidableEq Value] {db : Database Row Value} {tables : Tables}
  {table : String}

/-! ## The joins of a filter on observations -/

namespace Database.LooksUpEach

variable {scope : List String}

theorem elim {α : Type} {o : Option α} {joins : α → List Join}
    (h : ∀ a, LooksUpEach scope (joins a)) : LooksUpEach scope (o.elim [] joins) := by
  cases o with
  | none => trivial
  | some a => exact h a

theorem linked {F : Type} [Linkable F] {e : Entity} {field : String} {on : String → Predicate}
    {inner : String → F → List Join} (hon : ∀ t, LooksUp scope ⟨t, on t⟩)
    (hinner : ∀ t g, LooksUpEach (scope ++ [t]) (inner t g)) (link : Linked F) :
    LooksUpEach scope (link.joins tables e field on inner) := by
  unfold Linked.joins
  split
  · rename_i t g _
    exact ⟨hon t, hinner t g⟩
  · trivial

end Database.LooksUpEach

theorem StreamRow.looksUpEach_systemJoins {scope : List String} (h : table ∈ scope)
    (link : Linked SystemFilter) : LooksUpEach scope (StreamRow.systemJoins tables table link) := by
  refine .linked (fun _ => ⟨_, rfl, table, h, rfl⟩) (fun _ _ => ?_) link
  exact trivial

namespace ObservationRow

/-- The data streams are joined by their identifier, and then the systems. -/
theorem looksUpEach_dataStreamJoins (link? : Option (Linked DataStreamFilter)) :
    LooksUpEach [table] (link?.elim [] (dataStreamJoins tables table)) := by
  refine .elim fun link => .linked (fun _ => ?_) (fun streams nested => .elim fun system => ?_) link
  · exact ⟨_, rfl, table, List.mem_singleton_self table, rfl⟩
  · exact StreamRow.looksUpEach_systemJoins (List.mem_append_right _ (List.mem_singleton_self _)) _

/-- The tables of the data streams and their systems are joined, no others. -/
theorem table_of_mem_dataStreamJoins {link? : Option (Linked DataStreamFilter)} {j : Join}
    (h : j ∈ link?.elim [] (dataStreamJoins tables table)) :
    tables.dataStream = some j.table ∨ tables.system = some j.table := by
  have hfollow : Join.Follow tables [.dataStream, .system]
      (link?.elim [] (dataStreamJoins tables table)) :=
    .elim fun link => .linked (fun _ _ => .elim StreamRow.follow_systemJoins) link
  obtain ⟨ds, hds, heq⟩ := hfollow
  have hmem : some j.table ∈ ds.map tables.table? := by
    rw [← heq]
    exact List.mem_map_of_mem h
  obtain ⟨d, hd, hdj⟩ := List.mem_map.mp hmem
  have hd' := hds.subset hd
  simp only [List.mem_cons, List.not_mem_nil, or_false] at hd'
  rcases hd' with rfl | rfl
  · exact .inl hdj
  · exact .inr hdj

/-- The features are joined by their identifier, or not at all. -/
theorem foiJoins_eq (tables : Tables) (table : String) (link? : Option (Linked FeatureFilter)) :
    link?.elim [] (foiJoins tables table) = [] ∨
      ∃ features, tables.featureOfInterest = some features ∧
        link?.elim [] (foiJoins tables table) =
          [⟨features, .equal (foiId table) (FeatureRow.id features)⟩] := by
  cases link? with
  | none => exact .inl rfl
  | some link =>
    show foiJoins tables table link = [] ∨ ∃ features, _ ∧ foiJoins tables table link = _
    unfold foiJoins Linked.joins
    split
    · exact .inl rfl
    split
    · rename_i features nested hres
      exact .inr ⟨features, (Linked.resolve_eq_join.mp hres).2, rfl⟩
    · exact .inl rfl

end ObservationRow

/-! ## Versions -/

/-- Two matches have different versions of one feature. -/
def Database.Versions (db : Database Row Value) (features : String) (m n : Match Row) : Prop :=
  ∃ r ∈ db.rows features, ∃ s ∈ db.rows features,
    m.lookup features = some r ∧ n.lookup features = some s ∧ r ≠ s ∧
      sameKey [db.value m (FeatureRow.id features)] [db.value n (FeatureRow.id features)] = true

/-- A query that asks for the newest version of each feature, in a database that tells versions
apart, or for any version, in a database with one of each. -/
def Query.FixesVersion (db : Database Row Value) (q : Query) (features : String) : Prop :=
  db.KeyedBy features [FeatureRow.id features] ∨
    (FeatureRow.versions features).newestCondition ∈ q.conditions ∧
      db.KeyedBy features (FeatureRow.versions features).key

/-- The rows of the table of a query that have a match. -/
def Query.found [DecidableEq Row] (db : Database Row Value) (q : Query) : List Row :=
  (db.rows q.table).filter fun r => decide (∃ m ∈ q.kept db, m.lookup q.table = some r)

/-- The newest row of a series is one: two matches in one series that both have a newest row have
it with the same key. -/
theorem TimedRows.sameKey_of_newest {r : TimedRows} {m n : Match Row} (hseries : Series r.group [r])
    (hkey : (r.key.map Expr.text).Nodup) (hsub : r.group ⊆ r.key)
    (hm : r.newestCondition.holds db m = true) (hn : r.newestCondition.holds db n = true)
    (hmn : r.group.map (db.value m) = r.group.map (db.value n)) :
    sameKey (r.key.map (db.value m)) (r.key.map (db.value n)) = true := by
  rw [newestCondition, LatestRows.keyCondition, keyQuery_eq hseries hkey, Condition.holds,
    List.any_eq_true] at hm hn
  obtain ⟨a, ha, hma⟩ := hm
  obtain ⟨b, hb, hnb⟩ := hn
  rw [sameKey_iff] at hma hnb ⊢
  have hgroup : ∀ {k l : Match Row}, r.key.map (db.value k) = r.key.map (db.value l) →
      r.group.map (db.value k) = r.group.map (db.value l) := fun h =>
    List.map_congr_left fun e he => List.map_inj_left.mp h e (hsub he)
  -- There is one newest row in a series, and both matches have it.
  have hab : a = b := by
    refine List.inj_on_of_nodup_map (Query.nodup_answers hseries.group_ne_nil) ha hb ?_
    exact (hgroup hma.2).symm.trans (hmn.trans (hgroup hnb.2))
  subst hab
  exact ⟨hma.1, hma.2.trans hnb.2.symm⟩

/-! ## Matches of a compiled query -/

section
variable {f : ObservationFilter} {q : Query} (hT : tables.Separate)
  (h : compile tables (.observation f) = .ok q)
  (hstreams : ∀ streams ∈ tables.dataStream, db.KeyedBy streams [StreamRow.id streams])
  (hsystems : ∀ systems ∈ tables.system, db.KeyedBy systems [FeatureRow.id systems])
include hT h

/-- The query of a filter on observations joins what the filter does, each table once. -/
theorem ObservationFilter.joins_of_compile :
    q.joins = f.joins tables q.table ∧ (q.table :: q.joins.map Join.table).Nodup := by
  have hjoins := ObservationQuery.joins_of_compile h
  obtain ⟨htable, -, -⟩ := contribution_of_compile h
  have hnodup : (q.table :: (f.joins tables q.table).map Join.table).Nodup :=
    Filter.nodup_joins hT (.observation f) htable
  have hall : q.joins = f.joins tables q.table := by
    rw [hjoins]
    exact foldl_appendNew_eq (List.nodup_cons.mp hnodup).2
  exact ⟨hall, hall ▸ hnodup⟩

include hstreams hsystems

/-- A row of the observations has at most one match with data streams and systems. -/
theorem ObservationFilter.tells_dataStreams :
    db.Tells q.table
      (q.table :: (f.dataStream.elim [] (ObservationRow.dataStreamJoins tables q.table)).map
        Join.table)
      (db.source q.table
        (f.dataStream.elim [] (ObservationRow.dataStreamJoins tables q.table))) := by
  obtain ⟨hall, hnodup⟩ := ObservationFilter.joins_of_compile hT h
  refine (tells_rows db q.table).foldl_extend
    (ObservationRow.looksUpEach_dataStreamJoins f.dataStream) (fun j hj => ?_)
    (List.mem_singleton_self _) ?_
  · rcases ObservationRow.table_of_mem_dataStreamJoins hj with hstream | hsystem
    · exact hstreams _ hstream
    · exact hsystems _ hsystem
  · rw [hall, ObservationFilter.joins, List.map_append] at hnodup
    exact hnodup.sublist ((List.sublist_append_left _ _).cons_cons _)

/-- Two matches of one observation have different versions of its feature. -/
theorem ObservationFilter.versions_of_kept {m n : Match Row} (hm : m ∈ q.kept db)
    (hn : n ∈ q.kept db) (hmn : m.lookup q.table = n.lookup q.table) (hne : m ≠ n) :
    ∃ features ∈ tables.featureOfInterest, features ∈ q.joins.map Join.table ∧
      db.Versions features m n := by
  obtain ⟨hall, hnodup⟩ := ObservationFilter.joins_of_compile hT h
  have htells := ObservationFilter.tells_dataStreams hT h hstreams hsystems
  have hm := (Query.mem_kept.mp hm).1
  have hn := (Query.mem_kept.mp hn).1
  rw [hall, ObservationFilter.joins] at hm hn hnodup ⊢
  generalize f.dataStream.elim [] (ObservationRow.dataStreamJoins tables q.table) = streams at *
  obtain hnone | ⟨features, hfeatures, hfoi⟩ :=
    ObservationRow.foiJoins_eq tables q.table f.foi
  · rw [hnone, List.append_nil] at hm hn
    exact absurd (htells.unique m hm n hn hmn) hne
  -- The features are joined last, to matches that the observation tells apart.
  · rw [hfoi] at hm hn hnodup ⊢
    rw [source, List.foldl_append] at hm hn
    have hfresh : features ∉ q.table :: streams.map Join.table := by
      rw [List.map_append, ← List.cons_append] at hnodup
      exact fun hmem => List.disjoint_of_nodup_append hnodup hmem (List.mem_singleton_self _)
    obtain ⟨k, hk, r, hr, s, hs, rfl, rfl, hid⟩ := htells.same_id_of_extend
      ⟨_, rfl, q.table, List.mem_cons_self, rfl⟩ List.mem_cons_self hfresh hm hn hmn
    have hlookup : ∀ t : Row, (k ++ [(features, t)]).lookup features = some t :=
      fun t => lookup_concat_self (by rwa [htells.tables k hk])
    have hvalue : ∀ t : Row, db.value (k ++ [(features, t)]) (FeatureRow.id features) =
        db.value [(features, t)] (FeatureRow.id features) :=
      fun t => value_congr rfl ((hlookup t).trans List.lookup_cons_self.symm)
    refine ⟨features, hfeatures, by simp, r, hr, s, hs, hlookup r, hlookup s, ?_, ?_⟩
    · rintro rfl
      exact hne rfl
    · rw [hvalue, hvalue]
      exact hid

/-- Where the query fixes the version of the feature, an observation has one match. -/
theorem ObservationFilter.unique_kept
    (hversion : ∀ features ∈ tables.featureOfInterest, features ∈ q.joins.map Join.table →
      q.FixesVersion db features) {m n : Match Row} (hm : m ∈ q.kept db)
    (hn : n ∈ q.kept db) (hmn : m.lookup q.table = n.lookup q.table) : m = n := by
  by_contra hne
  obtain ⟨features, hfeatures, hjoined, r, hr, s, hs, hmr, hns, hrs, hid⟩ :=
    ObservationFilter.versions_of_kept hT h hstreams hsystems hm hn hmn hne
  refine hrs ?_
  rcases hversion features hfeatures hjoined with hkey | ⟨hnewest, hkey⟩
  · have hsource : ∀ e ∈ [FeatureRow.id features], e.source? = some features := by
      simp [FeatureRow.id, Expr.source?]
    refine hkey r hr s hs ?_
    rw [← map_value_of_lookup hsource hmr, ← map_value_of_lookup hsource hns]
    exact hid
  · have hsource : ∀ e ∈ (FeatureRow.versions features).key, e.source? = some features := by
      simp [FeatureRow.versions, FeatureRow.id, FeatureRow.validSince, FeatureRow.validStart,
        Expr.source?]
    refine hkey r hr s hs ?_
    rw [← map_value_of_lookup hsource hmr, ← map_value_of_lookup hsource hns]
    refine TimedRows.sameKey_of_newest (FeatureRow.series_versions features)
      (FeatureRow.nodup_key features) ?_ ((Query.mem_kept.mp hm).2 _ hnewest)
      ((Query.mem_kept.mp hn).2 _ hnewest) (sameKey_iff.mp hid).2
    exact List.cons_subset.mpr ⟨List.mem_cons_self, List.nil_subset _⟩

end

/-- The number of the matches is that of the rows found, where a row has one match at most. -/
theorem Query.length_kept [DecidableEq Row] {q : Query}
    (hunique : ∀ m ∈ q.kept db, ∀ n ∈ q.kept db, m.lookup q.table = n.lookup q.table → m = n) :
    (q.kept db).length = (q.found db).length := by
  have hkept : ((q.kept db).map fun m => m.lookup q.table).Nodup :=
    ((nodup_source db _ _).filter _).map_on hunique
  have hfound : ((q.found db).map some).Nodup :=
    ((db.nodup_rows q.table).filter _).map fun _ _ => Option.some.inj
  -- Neither list has an element twice, so that they agree if they have the same elements.
  have hperm : ((q.kept db).map fun m => m.lookup q.table).Perm ((q.found db).map some) := by
    rw [List.perm_ext_iff_of_nodup hkept hfound]
    intro row
    simp only [List.mem_map, found, List.mem_filter, decide_eq_true_eq]
    constructor
    · rintro ⟨m, hm, rfl⟩
      obtain ⟨r, hr, hlookup⟩ := exists_row_of_mem_source m (Query.mem_kept.mp hm).1
      exact ⟨r, ⟨hr, m, hm, hlookup⟩, hlookup.symm⟩
    · rintro ⟨r, ⟨-, m, hm, hlookup⟩, rfl⟩
      exact ⟨m, hm, hlookup⟩
  simpa using hperm.length_eq

/-- **No match of observations comes twice, and two matches of one observation have different
versions of its feature. Where features are not joined, have one version each, or are asked for
their newest version, each observation is returned once at most, and without distinct expressions
the counting form gives the number of the observations found.** -/
theorem occurrences_of_compile [DecidableEq Row] {f : ObservationFilter} {q : Query}
    (hT : tables.Separate) (h : compile tables (.observation f) = .ok q)
    (hstreams : ∀ streams ∈ tables.dataStream, db.KeyedBy streams [StreamRow.id streams])
    (hsystems : ∀ systems ∈ tables.system, db.KeyedBy systems [FeatureRow.id systems]) :
    (q.kept db).Nodup ∧
      (∀ m ∈ q.kept db, ∀ n ∈ q.kept db, m.lookup q.table = n.lookup q.table → m ≠ n →
        ∃ features ∈ tables.featureOfInterest, features ∈ q.joins.map Join.table ∧
          db.Versions features m n) ∧
      ((∀ features ∈ tables.featureOfInterest, features ∈ q.joins.map Join.table →
          q.FixesVersion db features) →
        ((q.answers db).map fun m => m.lookup q.table).Nodup ∧
          (q.distinct = [] → q.count db = (q.found db).length)) := by
  have hkept : (q.kept db).Nodup := (nodup_source db _ _).filter _
  refine ⟨hkept, fun m hm n hn => ObservationFilter.versions_of_kept hT h hstreams hsystems hm hn,
    fun hversion => ?_⟩
  have hunique : ∀ m ∈ q.kept db, ∀ n ∈ q.kept db, m.lookup q.table = n.lookup q.table → m = n :=
    fun m hm n hn => ObservationFilter.unique_kept hT h hstreams hsystems hversion hm hn
  refine ⟨?_, fun hdistinct => ?_⟩
  · have hsubperm : (q.answers db).Subperm (q.kept db) := Query.answers_subperm
    obtain ⟨l, hperm, hsub⟩ := hsubperm
    exact (hperm.map _).nodup ((hkept.map_on hunique).sublist (hsub.map _))
  · rw [Query.count_eq hdistinct, Query.length_kept hunique]

/-- Two observations, one of a feature with two versions and one of no feature, and their data
stream. Every predicate is true, and the later version comes first. -/
def Database.twoVersions : Database String Nat where
  rows
    | "obs" => ["observed", "unobserved"]
    | "streams" => ["stream"]
    | "features" => ["first version", "second version"]
    | _ => []
  nodup_rows table := by
    split <;> decide
  column
    | "observed", "foiid" => some 5
    | "first version", "id" | "second version", "id" => some 5
    | "observed", "datastreamid" | "unobserved", "datastreamid" | "stream", "id" => some 7
    | "observed", "id" => some 1
    | "unobserved", "id" => some 2
    | _, _ => none
  document
    | "first version", _ => some 2020
    | "second version", _ => some 2024
    | _, _ => none
  cast _ := some
  fragment _ _ := none
  test _ _ := true
  order _ ms := ms.reverse
  order_perm _ ms := ms.reverse_perm

/-- An observation of a feature with two versions, found once with the newest of them. -/
theorem occurrences_newest_version :
    let tables : Tables :=
      { observation := some "obs", dataStream := some "streams",
        featureOfInterest := some "features" }
    let f : ObservationFilter :=
      { dataStream := some (.filter {}), foi := some (.filter { validTime := some .latest }) }
    let db := Database.twoVersions
    tables.Separate ∧ ∃ q, compile tables (.observation f) = .ok q ∧
      q.FixesVersion db "features" ∧ ((q.answers db).map fun m => m.lookup q.table).Nodup ∧
      q.count db = (q.found db).length ∧ q.found db = ["observed"] := by
  intro tables f db
  have hT : tables.Separate := by decide
  have hq : ∃ q, compile tables (.observation f) = .ok q := ⟨_, rfl⟩
  obtain ⟨q, hq⟩ := hq
  have hstreams : ∀ streams ∈ tables.dataStream, db.KeyedBy streams [StreamRow.id streams] := by
    rintro _ ⟨⟩
    decide
  have hsystems : ∀ systems ∈ tables.system, db.KeyedBy systems [FeatureRow.id systems] := by
    rintro _ ⟨⟩
  have hversion : q.FixesVersion db "features" := by
    refine .inr ⟨?_, by decide⟩
    cases hq
    exact List.mem_cons_self
  obtain ⟨-, -, hfixed⟩ := occurrences_of_compile hT hq hstreams hsystems
  obtain ⟨hnodup, hcount⟩ := hfixed (by rintro _ ⟨⟩ _; exact hversion)
  refine ⟨hT, q, hq, hversion, hnodup, hcount ?_, ?_⟩
  · cases hq
    rfl
  · cases hq
    decide

/-- Features that are joined without a criterion: the observation of a feature with two versions is
returned twice, and counted twice. -/
theorem occurrences_two_versions :
    let tables : Tables :=
      { observation := some "obs", featureOfInterest := some "features" }
    let db := Database.twoVersions
    tables.Separate ∧ tables.invalidEntry? = none ∧ db.KeyedBy "obs" [.column "obs" "id"] ∧
      ∃ q, compile tables (.observation { foi := some (.filter {}) }) = .ok q ∧ q.distinct = [] ∧
        ((q.answers db).map fun m => m.lookup "obs") = [some "observed", some "observed"] ∧
        ¬ ((q.answers db).map fun m => m.lookup "obs").Nodup ∧
        q.count db = 2 ∧ q.found db = ["observed"] := by
  intro tables db
  refine ⟨by decide, by decide, by decide, _, rfl, rfl, by decide, by decide, by decide, by decide⟩

end ObservationQuery
