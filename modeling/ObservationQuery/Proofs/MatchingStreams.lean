import ObservationQuery.Proofs.Criteria
import ObservationQuery.Proofs.Latest
import ObservationQuery.Proofs.Sql.Parts
import ObservationQuery.Proofs.Sql.Reference

/-!
# The condition that a stream has a matching command

A filter on command streams may want those that have a matching command. It then has a condition on
the identifier of the stream, with a query over the commands that is compiled on its own.

* `CommandFilter.matchCondition` — the condition.
* `CommandFilter.FindsStreams` — what the query in it is.

Principal results: `CommandFilter.findsStreams` — the query depends on the filter on commands only;
`Condition.text_ne_inQuery` — a condition without a query is written unlike one with a query;
`CommandFilter.text_newestCondition_ne` — conditions on the newest rows are written unlike this one.
-/

namespace ObservationQuery

open Contribution Sql TimedRows

/-! ## The query of the streams -/

namespace CommandFilter

variable {streams commands : String} {f : CommandFilter}

/-- The condition that a stream has a matching command. -/
def matchCondition (streams commands : String) (f : CommandFilter) : Condition :=
  .inQuery [StreamRow.id streams] (f.matchingStreams commands)

/-- The query is what the filter leaves of a query that selects the streams of the commands,
whatever else is configured. It joins nothing and has no limit; where the latest commands are
wanted, it has one row for each stream, that of its latest command. -/
structure FindsStreams (commands : String) (f : CommandFilter) (q : Query) : Prop where
  compiled : ∀ tables : Tables, (Filter.command f).compileInto tables commands none
    ((Query.ofTable commands).addSelect (CommandRow.streamId commands)) = (q, none)
  table : q.table = commands
  select : q.select = [CommandRow.streamId commands]
  joins : q.joins = []
  limit : q.limit = none
  shape : Shape [CommandRow.streamId commands] (f.latest commands) q

/-- For a filter that does not refer to streams again it makes no difference that the streams are
given already. -/
theorem contribution_eq_scoped (tables : Tables) (h : (f.scopedContribution commands).Succeeds) :
    f.contribution tables commands commands = f.scopedContribution commands := by
  have hnone : f.commandStream = none := succeeds_unsupported.mp (succeeds_append.mp h).1
  rw [contribution, scopedContribution, hnone, ofOption_none, unsupported_none]

theorem findsStreams (h : (f.scopedContribution commands).Succeeds) :
    f.FindsStreams commands (f.matchingStreams commands) where
  compiled tables := by
    have hcontribution : (Filter.command f).contribution tables commands commands =
        f.scopedContribution commands := f.contribution_eq_scoped tables h
    have htable : ((Query.ofTable commands).addSelect (CommandRow.streamId commands)).table =
        commands := rfl
    have herror : (f.scopedContribution commands).error = none := h
    rw [Filter.compileInto_none, htable, hcontribution, herror]
    rfl
  table := Query.table_addAll _ _
  select := Query.select_addAll _ _
  joins := joins_matchingStreams h
  limit := Query.limit_addAll _ _
  shape := shape_matchingStreams h

/-- A criterion on commands that can be expressed is this condition. -/
theorem exists_matchCondition {tables : Tables}
    (h : (StreamRow.commandsContribution tables streams f).Succeeds) :
    ∃ commands, tables.table? .command = some commands ∧
      (f.scopedContribution commands).Succeeds ∧
      StreamRow.commandsContribution tables streams f =
        condition (f.matchCondition streams commands) := by
  unfold StreamRow.commandsContribution at h ⊢
  cases ht : tables.table? .command with
  | none =>
    rw [ht] at h
    exact absurd h (not_succeeds_fail _)
  | some commands =>
    rw [ht] at h
    dsimp only at h ⊢
    cases hs : (f.scopedContribution commands).error with
    | none => exact ⟨commands, rfl, hs, rfl⟩
    | some e =>
      rw [hs] at h
      exact absurd h (not_succeeds_fail _)

theorem reads_matchCondition (h : (f.scopedContribution commands).Succeeds)
    (hcommands : isTableName commands = true) :
    (f.matchCondition streams commands).Reads [streams] := by
  rw [matchCondition, Condition.Reads]
  exact ⟨List.forall_mem_singleton.mpr (StreamRow.reads_id (List.mem_singleton_self streams)),
    joins_matchingStreams h, f.matchingStreams_scoped hcommands⟩

theorem text_matchCondition : (f.matchCondition streams commands).text =
    streams ++ ".id IN (" ++ (f.matchingStreams commands).text ++ ")" := by
  apply String.toList_injective
  simp [matchCondition, Condition.text, Expr.keyText, Expr.text, StreamRow.id, Query.text]

/-- The condition begins with the identifier of the stream, and the query in it selects the streams
of the commands, distinct ones where the latest commands are wanted. -/
theorem text_matchCondition_eq (streams : String)
    (h : (f.scopedContribution commands).Succeeds) : ∃ rest,
    (f.matchCondition streams commands).text = streams ++ ".id" ++ (" " ++ ("IN (SELECT " ++
      ((if f.latest commands = [] then "" else "DISTINCT ON (" ++ commands ++
        ".commandstreamid) ") ++ (commands ++ ".commandstreamid" ++ (" " ++ rest))))) := by
  have hfinds := findsStreams h
  have hdistinct := hfinds.shape.distinct
  have hselected : (f.matchingStreams commands).selectText =
      (if f.latest commands = [] then "" else "DISTINCT ON (" ++ commands ++
        ".commandstreamid) ") ++ (commands ++ ".commandstreamid") := by
    rw [Query.selectText, hfinds.select, hdistinct]
    apply String.toList_injective
    split <;> simp [CommandRow.streamId, Expr.text]
  refine ⟨(f.matchingStreams commands).fromText ++ (f.matchingStreams commands).orderText ++
    (f.matchingStreams commands).limitText ++ ")", ?_⟩
  rw [text_matchCondition, Query.text_eq_parts, hselected]
  apply String.toList_injective
  simp only [String.toList_append, List.append_assoc]
  rfl

end CommandFilter

/-! ## Conditions that are written differently -/

/-- Texts that begin with words, each followed by a blank, are equal only if the words and the rests
are. -/
theorem eq_of_append_blank {x y u v : String} (hx : ' ' ∉ x.toList) (hy : ' ' ∉ y.toList)
    (h : x ++ (" " ++ u) = y ++ (" " ++ v)) : x = y ∧ u = v := by
  have hword : ∀ {w r : String}, ' ' ∉ w.toList →
      (w ++ (" " ++ r)).toList.takeWhile (· ≠ ' ') = w.toList := by
    intro w r hw
    have hpos : ∀ c ∈ w.toList, decide (c ≠ ' ') = true :=
      fun c hc => decide_eq_true fun hblank => hw (hblank ▸ hc)
    have hblank : (" " ++ r).toList = ' ' :: r.toList := String.toList_append
    rw [String.toList_append, List.takeWhile_append_of_pos hpos, hblank,
      List.takeWhile_cons_of_neg (by decide), List.append_nil]
  have hxy : x = y := String.toList_injective (by rw [← hword hx, h, hword hy])
  subst hxy
  exact ⟨rfl, (String.append_right_inj _).mp ((String.append_right_inj _).mp h)⟩

namespace Condition

variable {scope scope' : List String}

/-- The word that begins a query refers to no table. -/
theorem select_mem_words (key : List Expr) (query : Query) :
    codes "SELECT" ∈ words (inQuery key query).lexemes := by
  have hquery : ∃ rest, query.lexemes = codes "SELECT" ++ .code ' ' :: rest := by
    obtain ⟨⟩ := query
    rw [Query.lexemes]
    simp only [List.append_assoc]
    exact ⟨_, rfl⟩
  obtain ⟨rest, hrest⟩ := hquery
  have hsplit : (inQuery key query).lexemes = Expr.keyLexemes key ++ codes " IN " ++ .code '(' ::
      (codes "SELECT" ++ .code ' ' :: (rest ++ codes ")")) := by
    rw [lexemes, hrest]
    simp only [List.append_assoc]
    rfl
  have hword : words (codes "SELECT") = [codes "SELECT"] := words_of_word (by decide)
  rw [hsplit, words_append rfl, words_append rfl, hword]
  exact List.mem_append_right _ List.mem_cons_self

/-- A condition without a query is written unlike one with a query. -/
theorem text_ne_inQuery (hs : ∀ t ∈ scope, isTableName t = true)
    (hs' : ∀ t ∈ scope', isTableName t = true) {c : Condition} (hc : c.Reads scope)
    (hselect : c.isSelect = false) {key : List Expr} {query : Query}
    (hquery : (inQuery key query).Reads scope') : c.text ≠ (inQuery key query).text := by
  intro htext
  have hlexemes : (inQuery key query).lexemes = c.lexemes := by
    refine eq_of_chars_eq (hquery.phrase hs').tame (hc.phrase hs).tame ?_
    rw [chars_lexemes, chars_lexemes, htext]
  cases c with
  | inQuery => cases hselect
  | anyOf first others =>
    rw [Reads] at hc
    have hword := select_mem_words key query
    rw [hlexemes, lexemes] at hword
    rcases Predicate.qualified_anyLexemes hs hc.1 hc.2 _ hword with hknown | hcolumn
    · exact absurd hknown (by decide)
    · obtain ⟨table, -, column, -, hcolumn⟩ := hcolumn
      have hdot : Lexeme.code '.' ∈ codes "SELECT" := by
        rw [hcolumn]
        simp [codes]
      exact absurd hdot (by decide)

end Condition

namespace CommandFilter

variable {table streams commands rest : String} {f : CommandFilter}

/-- A table name does not begin with a parenthesis. -/
theorem paren_append_ne {u v : String} (ht : isTableName table = true) :
    "(" ++ u ≠ table ++ v := by
  intro h
  have hlists := congrArg String.toList h
  simp only [String.toList_append] at hlists
  cases hchars : table.toList with
  | nil =>
    have hempty : table = "" := String.toList_injective hchars
    rw [hempty] at ht
    exact absurd ht (by decide)
  | cons c cs =>
    rw [hchars] at hlists
    have hc : '(' = c := List.head_eq_of_cons_eq hlists
    have hplain : isPlain '(' = true :=
      isPlain_of_isTableName ht _ (hchars ▸ hc ▸ List.mem_cons_self)
    cases hplain

theorem blank_notMem_column {column : String} (ht : isTableName table = true)
    (hcolumn : ' ' ∉ column.toList) : ' ' ∉ (table ++ column).toList := by
  rw [String.toList_append, List.mem_append]
  exact not_or.mpr ⟨Expr.blank_not_mem_of_isTableName ht, hcolumn⟩

/-- If the condition finds streams by distinct values, these are the streams of the commands. -/
theorem rest_of_text_matchCondition (h : (f.scopedContribution commands).Succeeds)
    (hcommands : isTableName commands = true) (hstreams : isTableName streams = true)
    (ht : isTableName table = true) (htext : (f.matchCondition streams commands).text =
      table ++ ".id" ++ (" " ++ ("IN (SELECT " ++ ("DISTINCT ON (" ++ rest)))) : ∃ rest', rest =
      commands ++ ".commandstreamid)" ++ (" " ++ (commands ++ ".commandstreamid" ++
        (" " ++ rest'))) := by
  obtain ⟨rest', heq⟩ := text_matchCondition_eq streams h
  rw [htext] at heq
  obtain ⟨-, heq⟩ := eq_of_append_blank (blank_notMem_column ht (by decide))
    (blank_notMem_column hstreams (by decide)) heq
  have hselected := (String.append_right_inj _).mp heq
  split at hselected
  · have hblank : "DISTINCT ON (" ++ rest = "DISTINCT" ++ (" " ++ ("ON (" ++ rest)) := by
      apply String.toList_injective
      simp
    rw [hblank, String.empty_append] at hselected
    obtain ⟨hword, -⟩ := eq_of_append_blank (by decide)
      (blank_notMem_column hcommands (by decide)) hselected
    have hdot : '.' ∈ "DISTINCT".toList := by
      rw [hword]
      simp
    exact absurd hdot (by decide)
  · refine ⟨rest', (String.append_right_inj "DISTINCT ON (").mp (hselected.trans ?_)⟩
    apply String.toList_injective
    simp

/-- The condition on the newest version of each feature begins with a parenthesis. -/
theorem text_newest_features_ne (hstreams : isTableName streams = true) :
    (FeatureRow.versions table).newestCondition.text ≠ (f.matchCondition streams commands).text := by
  rw [FeatureRow.text_newest, text_matchCondition]
  simp only [String.append_assoc]
  exact paren_append_ne hstreams

/-- The condition on the newest version of each stream has one row for each name and system, which
are in parentheses. -/
theorem text_newest_streams_ne (h : (f.scopedContribution commands).Succeeds)
    (hcommands : isTableName commands = true) (hstreams : isTableName streams = true)
    (ht : isTableName table = true) :
    (StreamRow.versions table).newestCondition.text ≠ (f.matchCondition streams commands).text := by
  intro htext
  have hnewest : ∃ rest, (StreamRow.versions table).newestCondition.text = table ++ ".id" ++ (" " ++
      ("IN (SELECT " ++ ("DISTINCT ON (" ++ ("(" ++ rest)))) := by
    rw [StreamRow.text_newest, StreamRow.text_name]
    refine ⟨table ++ ".data->>'name')" ++ ", " ++ (StreamRow.systemId table).text ++ ") " ++ table ++
      ".id FROM " ++ table ++ " ORDER BY (" ++ table ++ ".data->>'name'), " ++
      (StreamRow.systemId table).text ++ ", " ++ (StreamRow.validUntil table).text ++ " DESC)", ?_⟩
    apply String.toList_injective
    simp
  obtain ⟨rest, hrest⟩ := hnewest
  obtain ⟨rest', heq⟩ :=
    rest_of_text_matchCondition h hcommands hstreams ht (htext.symm.trans hrest)
  rw [String.append_assoc] at heq
  exact paren_append_ne hcommands heq

/-- The condition on the newest command of each stream finds commands, not streams. -/
theorem text_newest_commands_ne (h : (f.scopedContribution commands).Succeeds)
    (hcommands : isTableName commands = true) (hstreams : isTableName streams = true)
    (ht : isTableName table = true) :
    (CommandRow.issued table).newestCondition.text ≠ (f.matchCondition streams commands).text := by
  intro htext
  have hnewest : ∃ rest, (CommandRow.issued table).newestCondition.text = table ++ ".id" ++ (" " ++
      ("IN (SELECT " ++ ("DISTINCT ON (" ++ (table ++ ".commandstreamid)" ++ (" " ++
        (table ++ ".id" ++ (" " ++ rest))))))) := by
    rw [CommandRow.text_newest]
    refine ⟨"FROM " ++ table ++ " ORDER BY " ++ table ++ ".commandstreamid, " ++ table ++
      ".issueTime DESC)", ?_⟩
    apply String.toList_injective
    simp
  obtain ⟨rest, hrest⟩ := hnewest
  obtain ⟨rest', heq⟩ :=
    rest_of_text_matchCondition h hcommands hstreams ht (htext.symm.trans hrest)
  obtain ⟨-, heq⟩ := eq_of_append_blank (blank_notMem_column ht (by decide))
    (blank_notMem_column hcommands (by decide)) heq
  obtain ⟨hcolumn, -⟩ := eq_of_append_blank (blank_notMem_column ht (by decide))
    (blank_notMem_column hcommands (by decide)) heq
  have hdot : ".".toList.getLast? = some '.' := by decide
  have hletter : ".commandstream".toList.getLast? = some 'm' := by decide
  refine append_ne_append hdot hletter (by decide) table commands ?_
  have hsame : table ++ "." ++ "id" = commands ++ ".commandstream" ++ "id" := by
    rw [String.append_assoc, String.append_assoc]
    exact hcolumn
  exact (String.append_left_inj "id").mp hsame

/-- No condition on the newest versions, or on the newest commands, is written like the one that a
stream has a matching command. -/
theorem text_newestCondition_ne (h : (f.scopedContribution commands).Succeeds)
    (hcommands : isTableName commands = true) (hstreams : isTableName streams = true)
    {scope : List String} (hscope : ∀ t ∈ scope, isTableName t = true) {r : TimedRows}
    (hr : r.AreVersions ∨ ∃ t, r = CommandRow.issued t) (hread : r.newestCondition.Reads scope) :
    r.newestCondition.text ≠ (f.matchCondition streams commands).text := by
  rw [newestCondition, LatestRows.keyCondition, Condition.Reads] at hread
  rcases hr with hversions | ⟨t, rfl⟩
  · cases hversions with
    | features t hrows =>
      subst hrows
      exact text_newest_features_ne hstreams
    | streams t hrows =>
      subst hrows
      have hid : (StreamRow.id t).Reads scope := hread.1 _ List.mem_cons_self
      exact text_newest_streams_ne h hcommands hstreams (hscope t hid.1)
  · have hid : (CommandRow.id t).Reads scope := hread.1 _ List.mem_cons_self
    exact text_newest_commands_ne h hcommands hstreams (hscope t hid.1)

end CommandFilter

end ObservationQuery
