import ObservationQuery.Proofs.Conjunction
import ObservationQuery.Proofs.Sql.Reference

/-!
# Every reference of a compiled query is in scope

* `Condition.ReadsOnly` — what a condition reads of the query it stands in, apart from the query in
  it.
* `Query.WellScoped` — the references in the clauses of a query, read off their texts.

Principal results: `Query.Scoped.wellScoped` — a query that reads its own tables is well scoped;
`wellScoped_of_compile` — so are a compiled query and every query that stands in it.
-/

namespace ObservationQuery

open Sql TokenStream

/-- The references of a condition are to tables in `scope`: those of its alternatives, or those of
the key that is looked for in a query. -/
def Condition.ReadsOnly (scope : List String) : Condition → Prop
  | .anyOf first others => Sql.ReadsOnly scope (Predicate.anyText first others)
  | .inQuery key _ => Sql.ReadsOnly scope (Expr.keyText key)

/-- Outside its literals each clause of the query refers to tables that are in scope there. -/
structure Query.WellScoped (q : Query) : Prop where
  selected : ReadsOnly q.scope (TokenStream.text (selected q.table q.select))
  distinct : ReadsOnly q.scope (TokenStream.text (distinctOn q.distinct))
  orderBy : ReadsOnly q.scope (TokenStream.text (ordered q.orderBy))
  conditions : ∀ c ∈ q.conditions, c.ReadsOnly q.scope
  /-- The predicate of a joined table refers to the tables before it and to this table. -/
  joins : ∀ before j after, q.joins = before ++ j :: after →
    ReadsOnly (q.table :: (before ++ [j]).map Join.table) j.on.text
  /-- A query in a condition has a single table in scope, its own. -/
  inner : ∀ key r, .inQuery key r ∈ q.conditions → r.scope = [r.table]

theorem Sql.readsOnly_of_tame {scope : List String} {ls : List Lexeme} {sql : String}
    (ht : Sql.tame ls = true) (hq : Qualified scope ls) (htext : chars ls = sql.toList) :
    ReadsOnly scope sql := ⟨ls, by rw [← htext, scan_chars ht], hq⟩

/-- A condition that reads tables with table names refers to no others. -/
theorem Condition.Reads.readsOnly {scope : List String} {c : Condition}
    (hs : ∀ t ∈ scope, isTableName t = true) (h : c.Reads scope) : c.ReadsOnly scope := by
  cases c with
  | anyOf first others =>
    rw [Condition.Reads] at h
    exact readsOnly_of_tame (Predicate.phrase_anyLexemes hs h.1 h.2).tame
      (Predicate.qualified_anyLexemes hs h.1 h.2) (Predicate.chars_anyLexemes first others)
  | inQuery key query =>
    rw [Condition.Reads] at h
    exact readsOnly_of_tame (Expr.phrase_keyLexemes hs h.1).tame
      (Expr.qualified_keyLexemes hs h.1) (Expr.chars_keyLexemes key)

theorem OrderKey.qualified_lexemes {scope : List String} {key : OrderKey}
    (h : Qualified scope key.expr.lexemes) : Qualified scope key.lexemes := by
  have hdirection : ∀ d, (words (codes (directionText (some d)))).all isKnown = true ∧
      opens (codes (directionText (some d))) = true := by
    rintro (_ | _) <;> decide
  unfold lexemes
  cases key.direction with
  | none => simpa [directionText, codes] using h
  | some d => exact h.append (.of_known (hdirection d).1) (.inr (hdirection d).2)

namespace Query.Reading

variable {q : Query}

theorem qualified_selected (h : q.Reading) :
    Qualified q.scope (selectedLexemes q.table q.select) := by
  unfold selectedLexemes
  split
  · have hstar : codes q.table ++ codes ".*" = codes (q.table ++ "." ++ "*") := by
      rw [String.append_assoc, codes_append]
      rfl
    rw [hstar]
    exact qualified_column List.mem_cons_self h.table (.inr rfl)
  · exact Expr.qualified_list h.scope h.select

theorem qualified_distinct (h : q.Reading) : Qualified q.scope (distinctLexemes q.distinct) := by
  unfold distinctLexemes
  split
  · exact .of_known rfl
  · have hwords : Qualified q.scope (codes "DISTINCT ON ") := .of_known (by decide)
    have hlist := (Expr.qualified_list h.scope h.distinct).paren
    exact (hwords.append hlist (.inl rfl)).append (.of_known (by decide)) (.inr rfl)

theorem qualified_ordered (h : q.Reading) : Qualified q.scope (orderedLexemes q.orderBy) := by
  unfold orderedLexemes
  split
  · exact .of_known rfl
  · have hwords : Qualified q.scope (codes " ORDER BY ") := .of_known (by decide)
    refine hwords.append (Qualified.list fun ls hls => ?_) (.inl rfl)
    obtain ⟨key, hkey, rfl⟩ := List.mem_map.mp hls
    exact OrderKey.qualified_lexemes ((h.orderBy key hkey).qualified h.scope)

theorem readsOnly_condition (h : q.Reading) : ∀ c ∈ q.conditions, c.ReadsOnly q.scope :=
  fun c hc => (h.conditions c hc).readsOnly h.scope

end Query.Reading

/-- The predicate of a join reads the tables before it and its own. -/
theorem Query.Reading.on {q : Query} (h : q.Reading) {before after : List Join} {j : Join}
    (hj : q.joins = before ++ j :: after) :
    j.on.Reads (q.table :: (before ++ [j]).map Join.table) := by
  have hjoins := h.joins
  rw [hj] at hjoins
  refine (Join.listRead_append.mp hjoins).2.1.on.mono fun t ht => ?_
  rcases List.mem_cons.mp ht with rfl | ht
  · simp
  · rcases Join.mem_scopeAfter.mp ht with ht | ht
    · simp [List.mem_singleton.mp ht]
    · exact List.mem_cons_of_mem _ (by rw [List.map_append]; exact List.mem_append_left _ ht)

/-- **A query that reads its own tables refers to no others in any of its clauses.** -/
theorem Query.Scoped.wellScoped {q : Query} (h : q.Scoped) : q.WellScoped := by
  have hread := (scoped_iff q).mp h
  refine ⟨?_, ?_, ?_, hread.readsOnly_condition, fun before j after hj => ?_, fun key r hr => ?_⟩
  · exact readsOnly_of_tame hread.passage_selected.tame hread.qualified_selected
      (toList_text_selected _ _).symm
  · exact readsOnly_of_tame hread.passage_distinct.tame hread.qualified_distinct
      (toList_text_distinctOn _).symm
  · exact readsOnly_of_tame hread.passage_ordered.tame hread.qualified_ordered
      (toList_text_ordered _).symm
  · have hon := hread.on hj
    have hsub : q.table :: (before ++ [j]).map Join.table ⊆ q.scope := by
      rw [Query.scope, hj]
      refine List.cons_subset_cons _ (List.map_subset _ ?_)
      exact List.append_subset.mpr ⟨by simp, by simp⟩
    have hscope := fun t ht => hread.scope t (hsub ht)
    exact readsOnly_of_tame (hon.phrase hscope).tame (hon.qualified hscope) j.on.chars_lexemes
  · have hcondition := hread.conditions _ hr
    rw [Condition.Reads] at hcondition
    rw [Query.scope, hcondition.2.1, List.map_nil]

/-- **Every compiled query is well scoped, and so is every query that stands in it.** Outside the
literals, what is selected, the conditions, the distinct expressions and the order refer to the
table of the query and to those joined with it, a join to the tables before it and to its own, and
a query in a condition to its own table only. -/
theorem wellScoped_of_compile {tables : Tables} {f : Filter} {q : Query}
    (hT : tables.invalidEntry? = none) (h : compile tables f = .ok q) :
    ∀ r, q.Embeds r → r.WellScoped :=
  fun _ hr => (hr.scoped (compile_scoped hT h)).wellScoped

/-- The current observations of the current streams of some systems: two joined tables, and queries
that look for the newest versions. -/
theorem wellScoped_current_streams :
    let tables : Tables :=
      { observation := some "obs", dataStream := some "geo.streams", system := some "geo.systems" }
    let systems : SystemFilter :=
      { uniqueIds := .singleton "urn:geo.x:*", validTime := some .latest }
    let streams : DataStreamFilter :=
      { system := some (.filter systems), validTime := some .latest }
    let f : Filter := .observation
      { dataStream := some (.filter streams), resultTime := some .latest }
    tables.invalidEntry? = none ∧ ∃ q, compile tables f = .ok q ∧
      q.scope = ["obs", "geo.streams", "geo.systems"] ∧
      (∃ key r, .inQuery key r ∈ q.conditions ∧ r.table = "geo.systems") ∧
      ∀ r, q.Embeds r → r.WellScoped := by
  intro tables systems streams f
  have hT : tables.invalidEntry? = none := by decide
  refine ⟨hT, _, rfl, rfl, ⟨_, _, .tail _ (.head _), rfl⟩, ?_⟩
  exact @wellScoped_of_compile tables f _ hT rfl

end ObservationQuery
