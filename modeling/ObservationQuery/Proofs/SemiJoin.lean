import ObservationQuery.Proofs.MatchingStreams

/-!
# Streams with a matching command

To ask for a matching command adds one condition to a query and leaves the rest of it alone.

* `Query.Inserts` — a query is another one with a condition inserted.
* `StreamPlace` — a filter on command streams stands on its own or behind a filter on commands.

Principal results: `StreamPlace.text_ne_matchCondition` — no other condition of a filter is written
like the one that a stream has a matching command; `compileInto_commands` — this condition comes
after those on the system, and nothing else changes.
-/

namespace ObservationQuery

open Contribution TimedRows

/-! ## One condition more -/

namespace Query

variable {c : Condition} {before plain r : Query}

/-- The query `r` is `plain`, which has the conditions of `before` and perhaps more, with the
condition `c` right after those of `before`. A condition of the same text is not repeated. -/
structure Inserts (c : Condition) (before plain r : Query) : Prop where
  frame : r = { plain with conditions := r.conditions }
  conditions : ∃ after, plain.conditions = before.conditions ++ after ∧ r.conditions =
    appendNew Condition.text before.conditions c ++ after.filter fun d => d.text ≠ c.text

/-- A condition that is written like no other comes between the others. -/
theorem Inserts.conditions_eq (h : Inserts c before plain r)
    (hnew : c.text ∉ plain.conditions.map Condition.text) :
    ∃ after, plain.conditions = before.conditions ++ after ∧
      r.conditions = before.conditions ++ c :: after := by
  obtain ⟨after, hplain, hr⟩ := h.conditions
  rw [hplain, List.map_append, List.mem_append] at hnew
  obtain ⟨hbefore, hafter⟩ := not_or.mp hnew
  have hall : (after.filter fun d => d.text ≠ c.text) = after :=
    List.filter_eq_self.mpr fun d hd =>
      decide_eq_true fun htext => hafter (htext ▸ List.mem_map_of_mem hd)
  refine ⟨after, hplain, ?_⟩
  rw [hr, appendNew, if_neg hbefore, hall, List.append_assoc]
  rfl

/-- What is contributed after a condition is contributed without it too. -/
theorem inserts_include (q : Query) {a : Contribution} (ha : a.Succeeds) (c : Condition)
    (b : Contribution) :
    Inserts c (q.include a) (q.include (a ++ b)) (q.include (a ++ (condition c ++ b))) := by
  have hplain : q.include (a ++ b) =
      (q.include a).merge ((ofTable (q.include a).table).include b) := by
    rw [include_append q ha]
    exact addAll_eq_merge _ _
  have hr : q.include (a ++ (condition c ++ b)) = ((q.include a).addCondition c).merge
      ((ofTable (q.include a).table).include b) := by
    rw [include_append q ha, include_append _ (succeeds_condition c)]
    exact addAll_eq_merge _ _
  rw [hplain, hr]
  exact ⟨rfl, _, rfl, mergeNew_appendNew _ _ _ _⟩

end Query

/-! ## Filters on command streams -/

/-- Where a filter on command streams stands: on its own, or behind the reference of a filter on
commands. -/
inductive StreamPlace where
  | root
  | commands (g : CommandFilter)

namespace StreamPlace

variable {tables : Tables} {root table streams : String} {f : CommandStreamFilter}
  {c : CommandFilter} {place : StreamPlace}

/-- The filter in which `f` stands at the place. -/
def filter (f : CommandStreamFilter) : StreamPlace → Filter
  | .root => .commandStream f
  | commands g => .command { g with commandStream := some (.filter f) }

/-- The place without the other criteria of the filter in which it is. -/
def bare : StreamPlace → StreamPlace
  | .root => .root
  | commands _ => commands {}

/-- The table of the command streams, where the filter is compiled for `table`. -/
def streams? (tables : Tables) (table : String) : StreamPlace → Option String
  | .root => some table
  | commands _ => tables.table? .commandStream

/-- What is contributed before and after the criterion on commands does not depend on it. -/
theorem exists_rest (tables : Tables) (root streams : String) (f : CommandStreamFilter) :
    ∃ rest, ∀ wanted : Option CommandFilter,
      ({ f with commands := wanted } : CommandStreamFilter).contribution tables root streams =
        ({ system := f.system } : CommandStreamFilter).contribution tables root streams ++
          (ofOption (StreamRow.commandsContribution tables streams) wanted ++ rest) := by
  refine ⟨({ f with system := none, commands := none } : CommandStreamFilter).contribution tables
    root streams, fun wanted => ?_⟩
  simp [CommandStreamFilter.contribution]

theorem exists_contribution (root : String) (place : StreamPlace) (f : CommandStreamFilter)
    (hstreams : place.streams? tables table = some streams) :
    ∃ rest, ∀ wanted : Option CommandFilter,
      (place.filter { f with commands := wanted }).contribution tables root table =
        (place.bare.filter { system := f.system }).contribution tables root table ++
          (ofOption (StreamRow.commandsContribution tables streams) wanted ++ rest) := by
  obtain ⟨rest, hrest⟩ := exists_rest tables root streams f
  cases place with
  | root =>
    cases hstreams
    exact ⟨rest, hrest⟩
  | commands g =>
    have hjoin : ∀ f : CommandStreamFilter,
        CommandRow.streamContribution tables root table (.filter f) =
          clause (.join ⟨streams, .equal (CommandRow.streamId table) (StreamRow.id streams)⟩) ++
            f.contribution tables root streams := by
      intro f
      have hresolve : (Linked.filter f).resolve (tables.table? .commandStream) .commandStream
          "commandStream" = .ok (.join streams f) := Linked.resolve_eq_join.mpr ⟨rfl, hstreams⟩
      rw [CommandRow.streamContribution, hresolve]
      rfl
    refine ⟨rest ++ g.ownContribution root table, fun wanted => ?_⟩
    have hcommand : ∀ (g : CommandFilter) (f : CommandStreamFilter),
        ((commands g).filter f).contribution tables root table =
          CommandRow.streamContribution tables root table (.filter f) ++
            g.ownContribution root table := fun _ _ => rfl
    have hnothing : ({} : CommandFilter).ownContribution root table = {} := by
      simp [CommandFilter.ownContribution]
    rw [hcommand, bare, hcommand, hjoin, hjoin, hnothing, hrest, append_empty]
    simp only [append_assoc]

/-- Behind a filter on commands the streams must be joined. -/
theorem exists_streams (hc : f.commands = some c)
    (h : ((place.filter f).contribution tables root table).Succeeds) :
    ∃ streams, place.streams? tables table = some streams := by
  cases place with
  | root => exact ⟨table, rfl⟩
  | commands g =>
    have hlink : (CommandRow.streamContribution tables root table (.filter f)).Succeeds :=
      (succeeds_append.mp h).1
    obtain ⟨resolution, hres, -⟩ := succeeds_ofExcept.mp hlink
    cases resolution with
    | join streams filter => exact ⟨streams, (Linked.resolve_eq_join.mp hres).2⟩
    | flat ids =>
      obtain ⟨_, hids, -⟩ | ⟨filter, hfilter, -, hids⟩ := Linked.resolve_eq_flat.mp hres
      · cases hids
      · cases hfilter
        simp [idsOnly?, hc] at hids

/-- What a filter that wants matching commands contributes: the condition, after what it contributes
up to the system, and before what it contributes without it. -/
theorem contribution_eq_insert (hc : f.commands = some c)
    (h : ((place.filter f).contribution tables root table).Succeeds) :
    ∃ streams commands rest, place.streams? tables table = some streams ∧
      tables.table? .command = some commands ∧ (c.scopedContribution commands).Succeeds ∧
      ((place.bare.filter { system := f.system }).contribution tables root table).Succeeds ∧
      (place.filter f).contribution tables root table =
        (place.bare.filter { system := f.system }).contribution tables root table ++
          (condition (c.matchCondition streams commands) ++ rest) ∧
      (place.filter { f with commands := none }).contribution tables root table =
        (place.bare.filter { system := f.system }).contribution tables root table ++ rest := by
  obtain ⟨streams, hstreams⟩ := exists_streams hc h
  obtain ⟨rest, hrest⟩ := exists_contribution root place f hstreams
  have hplain := hrest none
  rw [ofOption_none, empty_append] at hplain
  have hsame : { f with commands := some c } = f := by
    obtain ⟨⟩ := f
    cases hc
    rfl
  have hf := hrest (some c)
  rw [hsame] at hf
  have hparts := h
  rw [hf, succeeds_append, succeeds_append] at hparts
  obtain ⟨hbefore, hcommands, -⟩ := hparts
  obtain ⟨commands, ht, hs, hcondition⟩ := CommandFilter.exists_matchCondition hcommands
  rw [ofOption, hcondition] at hf
  exact ⟨streams, commands, rest, hstreams, ht, hs, hbefore, hf, hplain⟩

/-- A filter that wants no matching commands has no condition on them. -/
theorem commandConditions_eq_nil (place : StreamPlace) (h : f.commands = none) :
    (place.filter f).commandConditions tables table = [] := by
  have hstreams : ∀ streams, f.commandConditions tables streams = [] := by
    intro streams
    rw [CommandStreamFilter.commandConditions, h]
    rfl
  cases place with
  | root => exact hstreams table
  | commands g =>
    show Linked.behind tables .commandStream "commandStream" _ (.filter f) = []
    unfold Linked.behind
    split
    · rename_i streams filter hres
      cases (Linked.resolve_eq_join.mp hres).1
      exact hstreams streams
    · rfl

/-- The queries in its conditions are then those of newest versions and of newest commands. -/
theorem newest_of_isSelect (hnone : f.commands = none)
    (hf : ((place.filter f).contribution tables root table).Succeeds) {d : Condition}
    (hd : .condition d ∈ ((place.filter f).contribution tables root table).clauses)
    (hselect : d.isSelect) :
    ∃ r : TimedRows, (r.AreVersions ∨ ∃ t, r = CommandRow.issued t) ∧ d = r.newestCondition := by
  have hrows := ((place.filter f).shapes_contribution.selects hf d hselect).mp hd
  rw [commandConditions_eq_nil place hnone] at hrows
  obtain ⟨r, hr, -, hcondition⟩ := hrows.resolve_right List.not_mem_nil
  refine ⟨r, ?_, hcondition⟩
  rcases List.mem_append.mp hr with hr | hr
  · exact .inl (((place.filter f).joined_linkedLatest table).versions r hr)
  · cases place with
    | root => exact .inl (.streams table (eq_of_mem_ifLatest hr))
    | commands => exact .inr ⟨table, eq_of_mem_ifLatest hr⟩

theorem isTableName_of_streams? (hT : tables.invalidEntry? = none) (ht : isTableName table = true)
    (hstreams : place.streams? tables table = some streams) : isTableName streams = true := by
  cases place with
  | root =>
    cases hstreams
    exact ht
  | commands => exact Tables.isTableName_of_table? (e := .commandStream) hT hstreams

/-- **Where all table names are well formed, no condition of a filter that wants no matching commands
is written like the one that a stream has a matching command.** -/
theorem text_ne_matchCondition {commands : String} (hT : tables.invalidEntry? = none)
    (ht : isTableName table = true) (hstreams : isTableName streams = true)
    (hcommands : isTableName commands = true) (hs : (c.scopedContribution commands).Succeeds)
    (hnone : f.commands = none)
    (hf : ((place.filter f).contribution tables root table).Succeeds) {d : Condition}
    (hd : .condition d ∈ ((place.filter f).contribution tables root table).clauses) :
    d.text ≠ (c.matchCondition streams commands).text := by
  have hread : ((place.filter f).contribution tables root table).Reads [table] :=
    (place.filter f).reads_contribution hT ht (List.mem_singleton_self table)
  obtain ⟨scope, hscope, hreads⟩ := hread.exists_reads (List.forall_mem_singleton.mpr ht) d
    (List.mem_flatMap.mpr ⟨_, hd, List.mem_singleton_self d⟩)
  cases hselect : d.isSelect with
  | false =>
    exact Condition.text_ne_inQuery hscope (List.forall_mem_singleton.mpr hstreams) hreads hselect
      (CommandFilter.reads_matchCondition hs hcommands)
  | true =>
    obtain ⟨r, hr, rfl⟩ := newest_of_isSelect hnone hf hd hselect
    exact CommandFilter.text_newestCondition_ne hs hcommands hstreams hscope hr hreads

end StreamPlace

/-- **To ask for the command streams that have a matching command, on their own or behind a filter on
commands, changes a query in one thing: after the conditions on the system it has the condition that
the identifier of the stream is among those that a query over the commands selects. That query is
what the filter on commands leaves of a fresh one, whatever the rest is. The condition is one more,
unless table names are not well formed or the query had it before.** -/
theorem compileInto_commands {tables : Tables} {place : StreamPlace} {f : CommandStreamFilter}
    {c : CommandFilter} {table : String} {q r : Query} (hc : f.commands = some c)
    (h : (place.filter f).compileInto tables table none q = (r, none)) :
    ∃ streams commands before plain,
      place.streams? tables table = some streams ∧ tables.table? .command = some commands ∧
      (place.bare.filter { system := f.system }).compileInto tables table none q =
        (before, none) ∧
      (place.filter { f with commands := none }).compileInto tables table none q =
        (plain, none) ∧
      Query.Inserts (c.matchCondition streams commands) before plain r ∧
      (c.matchCondition streams commands).text =
        streams ++ ".id IN (" ++ (c.matchingStreams commands).text ++ ")" ∧
      c.FindsStreams commands (c.matchingStreams commands) ∧
      (tables.invalidEntry? = none → isTableName table = true →
        (c.matchCondition streams commands).text ∉ q.conditions.map Condition.text →
          ∃ after, plain.conditions = before.conditions ++ after ∧
            r.conditions = before.conditions ++ c.matchCondition streams commands :: after) := by
  rw [Filter.compileInto_none] at h
  obtain ⟨rfl, hs⟩ := Prod.mk.inj h
  obtain ⟨streams, commands, rest, hstreams, hcommands, hscoped, hbefore, hf, hplain⟩ :=
    StreamPlace.contribution_eq_insert hc hs
  have hinserts := q.inserts_include hbefore (c.matchCondition streams commands) rest
  have hrest : rest.Succeeds := by
    rw [hf] at hs
    exact (succeeds_append.mp (succeeds_append.mp hs).2).2
  have hplain' : ((place.filter { f with commands := none }).contribution tables q.table
      table).Succeeds := by
    rw [hplain]
    exact succeeds_append.mpr ⟨hbefore, hrest⟩
  rw [← hf, ← hplain] at hinserts
  refine ⟨streams, commands, _, _, hstreams, hcommands, ?_, ?_, hinserts,
    CommandFilter.text_matchCondition, CommandFilter.findsStreams hscoped, ?_⟩
  · rw [Filter.compileInto_none]
    exact Prod.ext rfl hbefore
  · rw [Filter.compileInto_none]
    exact Prod.ext rfl hplain'
  · intro hT ht hnew
    refine hinserts.conditions_eq fun hmem => ?_
    obtain ⟨d, hd, htext⟩ := List.mem_map.mp hmem
    rcases Query.mem_conditions_addAll _ _ hd with hd | hd
    · exact hnew (htext ▸ List.mem_map_of_mem hd)
    · have hstreams' := StreamPlace.isTableName_of_streams? hT ht hstreams
      have hcommands' := Tables.isTableName_of_table? hT hcommands
      exact StreamPlace.text_ne_matchCondition hT ht hstreams' hcommands' hscoped rfl hplain' hd
        htext

/-- The latest command to each of the streams of a system whose latest command is from an operator:
the two wishes for the latest command meet in no query. -/
theorem compileInto_latest_from_operator :
    let tables : Tables := { commandStream := some "cs", command := some "cmd" }
    let c : CommandFilter :=
      { senderIds := .singleton "operator", issueTime := some .latest, limit := some 5 }
    let f : CommandStreamFilter :=
      { system := some (.ids (.singleton 3)), commands := some c, internalIds := .singleton 7 }
    let place : StreamPlace := .commands { issueTime := some .latest }
    f.commands = some c ∧ ∃ before plain r,
      (place.filter f).compileInto tables "cmd" none (.ofTable "cmd") = (r, none) ∧
      Query.Inserts (c.matchCondition "cs" "cmd") before plain r ∧
      before.conditions.map Condition.text =
        ["(cs.data->'system@id'->'internalID'->>'id')::bigint = 3"] ∧
      (c.matchingStreams "cmd").selectText =
        "DISTINCT ON (cmd.commandstreamid) cmd.commandstreamid" ∧
      (c.matchingStreams "cmd").fromText = "FROM cmd WHERE cmd.senderid IN ('operator')" ∧
      (c.matchingStreams "cmd").limitText = "" ∧
      r.distinct.map Expr.text = ["cmd.commandstreamid"] ∧
      ∃ after, plain.conditions = before.conditions ++ after ∧
        r.conditions = before.conditions ++ c.matchCondition "cs" "cmd" :: after := by
  intro tables c f place
  have hc : f.commands = some c := rfl
  have hcompile : ∃ r, (place.filter f).compileInto tables "cmd" none (.ofTable "cmd") =
      (r, none) := ⟨_, rfl⟩
  obtain ⟨r, hr⟩ := hcompile
  obtain ⟨streams, commands, before, plain, hstreams, hcommands, hbefore, -, hinserts, -, -, hnew⟩ :=
    compileInto_commands hc hr
  cases hstreams
  cases hcommands
  refine ⟨hc, before, plain, r, hr, hinserts, ?_, by decide, by decide, rfl, ?_, ?_⟩
  · cases hbefore
    decide
  · cases hr
    decide
  · exact hnew (by decide) (by decide) List.not_mem_nil

end ObservationQuery
