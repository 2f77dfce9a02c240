import ObservationQuery.Compile.Command
import ObservationQuery.Compile.Observation
import ObservationQuery.Proofs.Compile.Order
import ObservationQuery.Proofs.Sql.Parts

/-!
# The series of each entity

* `FeatureRow.series_versions`, `StreamRow.series_versions`, `CommandRow.series_issued`,
  `ObservationRow.series_timed` — the rows of an entity are in a series.
* `FeatureRow.text_newest`, `StreamRow.text_newest`, `CommandRow.text_newest` — how the condition on
  the newest rows is written.
* `TimedRows.AreVersions` — rows are the versions of features or of streams.

Principal result: `TimedRows.AreVersions.table_eq` — conditions on the newest versions in different
tables are written differently.
-/

namespace ObservationQuery

open TimedRows

/-- Texts that end with different characters are different. -/
theorem append_ne_append {x y : String} {c d : Char} (hx : x.toList.getLast? = some c)
    (hy : y.toList.getLast? = some d) (hne : c ≠ d) (a b : String) : a ++ x ≠ b ++ y := by
  intro h
  have hlast := congrArg (fun s : String => s.toList.getLast?) h
  rw [String.toList_append, String.toList_append, List.getLast?_append, List.getLast?_append, hx,
    hy] at hlast
  exact hne (Option.some.inj hlast)

/-- The condition on the newest rows. -/
theorem TimedRows.text_newestCondition {r : TimedRows} (h : Series r.group [r])
    (hkey : (r.key.map Expr.text).Nodup) (hne : r.key ≠ []) : r.newestCondition.text =
      Expr.keyText r.key ++ " IN (SELECT DISTINCT ON (" ++
        ", ".intercalate (r.group.map Expr.text) ++ ") " ++
        ", ".intercalate (r.key.map Expr.text) ++ " FROM " ++ r.table ++ " ORDER BY " ++
        ", ".intercalate (r.newest.orderKeys.map OrderKey.text) ++ ")" := by
  have hkeys : r.newest.orderKeys ≠ [] := List.concat_ne_nil _ _
  have htext : ∀ q : Query, (Condition.inQuery r.key q).text =
      Expr.keyText r.key ++ " IN (" ++ q.text ++ ")" := fun q => by rw [Condition.text, Query.text]
  rw [newestCondition, LatestRows.keyCondition, keyQuery_eq h hkey, htext, Query.text_eq_parts]
  apply String.toList_injective
  simp [Query.selectText, Query.fromText, Query.orderText, Query.limitText, h.group_ne_nil, hne,
    hkeys]

/-! ## Features and systems -/

namespace FeatureRow

variable (table : String)

theorem series_versions : Series [id table] [versions table] :=
  .single (List.cons_ne_nil _ _) (List.nodup_singleton _) rfl

/-- The identifier ends with a letter of its column, the start of the validity with one of its
type. -/
theorem nodup_key : ((versions table).key.map Expr.text).Nodup := by
  have hid : "id".toList.getLast? = some 'd' := by decide
  have htype : "timestamptz".toList.getLast? = some 'z' := by decide
  exact List.pairwise_pair.mpr (append_ne_append hid htype (by decide) _ _)

theorem text_validSince : (validSince table).text =
    "(" ++ table ++ ".data->'properties'->'validTime'->>0" ++ ")::timestamptz" := by
  have hpath : Expr.pathText [.member "properties", .member "validTime", .item 0] =
      "->'properties'->'validTime'->>0" := by decide
  apply String.toList_injective
  simp [validSince, validStart, Expr.text, SqlType.text, hpath]

/-- The condition on the newest version of each feature. -/
theorem text_newest : (versions table).newestCondition.text =
    "(" ++ table ++ ".id, " ++ (validSince table).text ++ ") IN (SELECT DISTINCT ON (" ++
      table ++ ".id) " ++ table ++ ".id, " ++ (validSince table).text ++ " FROM " ++ table ++
      " ORDER BY " ++ table ++ ".id, " ++ (validSince table).text ++ " DESC)" := by
  rw [text_newestCondition (series_versions table) (nodup_key table) (List.cons_ne_nil _ _)]
  apply String.toList_injective
  simp [versions, newest, LatestRows.orderKeys, OrderKey.text, OrderKey.plain, OrderKey.latest,
    TimeTarget.newest, Expr.keyText, Expr.text, id]

end FeatureRow

/-! ## Streams -/

namespace StreamRow

variable (table : String)

/-- The name of a stream ends with a parenthesis, its system with a letter of its type. -/
theorem series_versions :
    Series [text table "name", systemId table] [versions table] := by
  have hname : ")".toList.getLast? = some ')' := by decide
  have htype : "bigint".toList.getLast? = some 't' := by decide
  refine .single (List.cons_ne_nil _ _) (List.pairwise_pair.mpr ?_) rfl
  exact append_ne_append hname htype (by decide) _ _

theorem nodup_key : ((versions table).key.map Expr.text).Nodup := List.nodup_singleton _

theorem text_name : (text table "name").text = "(" ++ table ++ ".data->>'name')" := by
  have hpath : Expr.pathText [.member "name"] = "->>'name'" := by decide
  apply String.toList_injective
  simp [text, Expr.text, hpath]

theorem text_systemId : (systemId table).text =
    "(" ++ table ++ ".data->'system@id'->'internalID'->>'id')::bigint" := by
  have hpath : Expr.pathText [.member "system@id", .member "internalID", .member "id"] =
      "->'system@id'->'internalID'->>'id'" := by decide
  apply String.toList_injective
  simp [systemId, Expr.text, SqlType.text, hpath]

theorem text_validUntil : (validUntil table).text =
    "(" ++ table ++ ".data->'validTime'->>'end'" ++ ")::timestamptz" := by
  have hpath : Expr.pathText [.member "validTime", .member "end"] = "->'validTime'->>'end'" := by
    decide
  apply String.toList_injective
  simp [validUntil, validStop, Expr.text, SqlType.text, hpath]

/-- The condition on the newest version of each stream. -/
theorem text_newest : (versions table).newestCondition.text =
    table ++ ".id IN (SELECT DISTINCT ON (" ++ (text table "name").text ++ ", " ++
      (systemId table).text ++ ") " ++ table ++ ".id FROM " ++ table ++ " ORDER BY " ++
      (text table "name").text ++ ", " ++ (systemId table).text ++ ", " ++
      (validUntil table).text ++ " DESC)" := by
  rw [text_newestCondition (series_versions table) (nodup_key table) (List.cons_ne_nil _ _)]
  apply String.toList_injective
  simp [versions, newest, LatestRows.orderKeys, OrderKey.text, OrderKey.plain, OrderKey.latest,
    TimeTarget.newest, Expr.keyText, Expr.text, id]

end StreamRow

/-! ## Commands and observations -/

namespace CommandRow

variable (table : String)

theorem series_issued : Series [streamId table] [issued table] :=
  .single (List.cons_ne_nil _ _) (List.nodup_singleton _) rfl

theorem nodup_key : ((issued table).key.map Expr.text).Nodup := List.nodup_singleton _

/-- The condition on the newest command of each stream. -/
theorem text_newest : (issued table).newestCondition.text =
    table ++ ".id IN (SELECT DISTINCT ON (" ++ table ++ ".commandstreamid) " ++ table ++
      ".id FROM " ++ table ++ " ORDER BY " ++ table ++ ".commandstreamid, " ++ table ++
      ".issueTime DESC)" := by
  rw [text_newestCondition (series_issued table) (nodup_key table) (List.cons_ne_nil _ _)]
  apply String.toList_injective
  simp [issued, newest, LatestRows.orderKeys, OrderKey.text, OrderKey.plain, OrderKey.latest,
    TimeTarget.newest, Expr.keyText, Expr.text, id, streamId]

end CommandRow

/-- The observations of a data stream are a series in either time. -/
theorem ObservationRow.series_timed (table : String) : Series [ObservationRow.dataStreamId table]
    [ObservationRow.timed table "phenomenonTime", ObservationRow.timed table "resultTime"] := by
  refine ⟨by simp [ObservationRow.timed], List.cons_ne_nil _ _, List.nodup_singleton _, ?_⟩
  have hne : table ++ "." ++ "phenomenonTime" ≠ table ++ "." ++ "resultTime" := by
    intro h
    have hlist := congrArg String.toList h
    simp at hlist
  exact List.pairwise_pair.mpr hne

/-! ## Conditions on versions -/

/-- The rows are the versions of features or of streams. -/
inductive TimedRows.AreVersions (rows : TimedRows) : Prop
  | features (table : String) (h : rows = FeatureRow.versions table)
  | streams (table : String) (h : rows = StreamRow.versions table)

namespace TimedRows.AreVersions

variable {r s : TimedRows}

theorem series (h : r.AreVersions) : Series r.group [r] := by
  cases h with
  | features table h =>
    subst h
    exact FeatureRow.series_versions table
  | streams table h =>
    subst h
    exact StreamRow.series_versions table

theorem nodup_key (h : r.AreVersions) : (r.key.map Expr.text).Nodup := by
  cases h with
  | features table h =>
    subst h
    exact FeatureRow.nodup_key table
  | streams table h =>
    subst h
    exact StreamRow.nodup_key table

/-- Texts that begin with texts of the same length begin with the same text. -/
theorem eq_of_append {t u x y : String} (hlength : t.length = u.length)
    (h : t ++ x = u ++ y) : t = u := by
  have hlists := congrArg String.toList h
  rw [String.toList_append, String.toList_append] at hlists
  exact String.toList_injective (List.append_inj hlists hlength).1

theorem table_eq_of_features {t u : String}
    (h : (FeatureRow.versions t).newestCondition.text =
      (FeatureRow.versions u).newestCondition.text) : t = u := by
  rw [FeatureRow.text_newest, FeatureRow.text_newest, FeatureRow.text_validSince,
    FeatureRow.text_validSince] at h
  have hlength := congrArg String.length h
  simp only [String.length_append] at hlength
  simp only [String.append_assoc] at h
  exact eq_of_append (by omega) ((String.append_right_inj "(").mp h)

theorem table_eq_of_streams {t u : String}
    (h : (StreamRow.versions t).newestCondition.text =
      (StreamRow.versions u).newestCondition.text) : t = u := by
  rw [StreamRow.text_newest, StreamRow.text_newest, StreamRow.text_name, StreamRow.text_name,
    StreamRow.text_systemId, StreamRow.text_systemId, StreamRow.text_validUntil,
    StreamRow.text_validUntil] at h
  have hlength := congrArg String.length h
  simp only [String.length_append] at hlength
  simp only [String.append_assoc] at h
  exact eq_of_append (by omega) h

/-- The path to the validity of a feature ends with an item of an array, that of a stream with a
member. -/
theorem text_ne (t u : String) : (FeatureRow.versions t).newestCondition.text ≠
    (StreamRow.versions u).newestCondition.text := by
  have hitem : ".data->'properties'->'validTime'->>0".toList.getLast? = some '0' := by decide
  have hmember : ".data->'validTime'->>'end'".toList.getLast? = some '\'' := by decide
  rw [FeatureRow.text_newest, StreamRow.text_newest, FeatureRow.text_validSince,
    StreamRow.text_validUntil]
  simp only [← String.append_assoc, ne_eq, String.append_left_inj]
  exact append_ne_append hitem hmember (by decide) _ _

/-- **Conditions on the newest versions in different tables are written differently.** -/
theorem table_eq (hr : r.AreVersions) (hs : s.AreVersions)
    (h : r.newestCondition.text = s.newestCondition.text) : r.table = s.table := by
  cases hr with
  | features t hr =>
    cases hs with
    | features u hs =>
      subst hr hs
      exact table_eq_of_features h
    | streams u hs =>
      subst hr hs
      exact absurd h (text_ne t u)
  | streams t hr =>
    cases hs with
    | features u hs =>
      subst hr hs
      exact absurd h.symm (text_ne u t)
    | streams u hs =>
      subst hr hs
      exact table_eq_of_streams h

end TimedRows.AreVersions

end ObservationQuery
