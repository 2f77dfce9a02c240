import ObservationQuery.Proofs.Compile.Filter

/-!
# Texts of the user stay in their literals

* `Sql.Contained` — a text is read as code that opens nothing and literals that hold some texts and
  no other texts of the user, and it is read alike whatever strings the literals hold.

Principal result: `contained_of_compile` — both texts of a compiled query contain the texts of
its filter.
-/

namespace ObservationQuery

open Sql

/-- The text `sql` is read as the lexemes `ls`: what stands outside the literals opens nothing, the
literals hold `texts` and no other texts of the user, and other strings in them change nothing
outside. -/
structure Sql.Contained (texts : List String) (sql : String) (ls : List Lexeme) : Prop where
  read : scan sql.toList = some ls
  harmless : Harmless (outside ls)
  carries : Carries texts ls
  stable : ∀ ks, ks.map Lexeme.erase = ls.map Lexeme.erase →
    scan (chars ks) = some ks ∧ outside ks = outside ls

namespace Query

variable {q : Query} {c : Condition} {l : Lexeme}

theorem mem_sourceLexemes (hc : c ∈ q.conditions) (hl : l ∈ c.lexemes) :
    l ∈ sourceLexemes q.table q.joins (Condition.lexemeLists q.conditions) := by
  have hmem : c.lexemes ∈ Condition.lexemeLists q.conditions := by
    rw [Condition.lexemeLists_eq_map]
    exact List.mem_map_of_mem hc
  rw [sourceLexemes, if_neg (List.ne_nil_of_mem hmem)]
  exact List.mem_append_right _ (List.mem_append_right _ (mem_intercalate hl hmem))

theorem mem_lexemes (hc : c ∈ q.conditions) (hl : l ∈ c.lexemes) : l ∈ q.lexemes := by
  have hsource := mem_sourceLexemes hc hl
  obtain ⟨⟩ := q
  rw [lexemes]
  exact List.mem_append_left _ (List.mem_append_left _ (List.mem_append_right _ hsource))

theorem mem_countLexemes (hc : c ∈ q.conditions) (hl : l ∈ c.lexemes) : l ∈ q.countLexemes := by
  refine List.mem_append_right _ ?_
  split
  · exact mem_sourceLexemes hc hl
  · have hrows : l ∈ ({ q with limit := none } : Query).lexemes := mem_lexemes hc hl
    simp [hrows]

end Query

variable {tables : Tables} {f : Filter} {q : Query}

/-- Each text of a filter is in a literal of a condition: where a condition is left out, one that is
written like it is there. -/
theorem mem_condition_of_mem_texts (hT : tables.invalidEntry? = none)
    (h : compile tables f = .ok q) {v : String} (hv : v ∈ f.texts) :
    ∃ c ∈ q.conditions, .literal v ∈ c.lexemes := by
  obtain ⟨clauses, htexts, hconditions, hphrase⟩ := exists_clauses_of_compile hT h
  rw [← htexts] at hv
  obtain ⟨clause, hclause, hv⟩ := List.mem_flatMap.mp hv
  cases clause with
  | join | distinct | orderBy => cases hv
  | condition c =>
    have hc : c ∈ clauses.flatMap Clause.conditions :=
      List.mem_flatMap.mpr ⟨_, hclause, List.mem_singleton_self c⟩
    have hkey : c.text ∈ ((clauses.flatMap Clause.conditions).foldl (appendNew Condition.text)
        []).map Condition.text := key_mem_foldl_appendNew hc
    obtain ⟨d, hd, htext⟩ := List.mem_map.mp hkey
    have hdc : d ∈ clauses.flatMap Clause.conditions :=
      (mem_foldl_appendNew hd).resolve_left List.not_mem_nil
    have hlexemes : d.lexemes = c.lexemes := by
      refine eq_of_chars_eq (hphrase d hdc).1.tame (hphrase c hc).1.tame ?_
      rw [d.chars_lexemes, c.chars_lexemes, htext]
    refine ⟨d, hconditions ▸ hd, ?_⟩
    rw [hlexemes]
    exact mem_values.mp ((hphrase c hc).2.complete v hv)

/-- Each text of the user in a compiled query is one of its filter. -/
theorem mem_texts_of_mem_userTexts (hT : tables.invalidEntry? = none)
    (h : compile tables f = .ok q) {v : String} (hv : v ∈ q.userTexts) : v ∈ f.texts := by
  obtain ⟨clauses, htexts, hconditions, -⟩ := exists_clauses_of_compile hT h
  rw [q.userTexts_eq, hconditions] at hv
  obtain ⟨c, hc, hv⟩ := List.mem_flatMap.mp hv
  have hc := (mem_foldl_appendNew hc).resolve_left List.not_mem_nil
  obtain ⟨clause, hclause, hc⟩ := List.mem_flatMap.mp hc
  rw [← htexts]
  refine List.mem_flatMap.mpr ⟨clause, hclause, ?_⟩
  cases clause with
  | condition d =>
    rw [List.mem_singleton.mp hc] at hv
    exact hv
  | join | distinct | orderBy => cases hc

/-- A passage that carries the texts of a query, and has its conditions, contains the texts of its
filter. -/
theorem contained_of_passage (hT : tables.invalidEntry? = none) (h : compile tables f = .ok q)
    {sql : String} {ls : List Lexeme} (hsql : chars ls = sql.toList) (hls : Passage ls)
    (hcarries : Carries q.userTexts ls)
    (hconditions : ∀ c ∈ q.conditions, ∀ l ∈ c.lexemes, l ∈ ls) : Contained f.texts sql ls := by
  refine ⟨hsql ▸ scan_chars hls.tame, harmless_outside hls.tame, ⟨fun v hv => ?_, fun v hv => ?_⟩,
    fun ks hks => ⟨scan_chars_of_erase hls.tame hks, outside_eq_of_erase hks⟩⟩
  · obtain ⟨c, hc, hl⟩ := mem_condition_of_mem_texts hT h hv
    exact mem_values.mpr (hconditions c hc _ hl)
  · exact (hcarries.sound v hv).imp_right (mem_texts_of_mem_userTexts hT h)

/-- **Whatever texts a filter has, both texts of its query are read to their end as code and
literals: the code opens no identifier in quotes, no comment and no further statement, the literals
hold exactly the texts of the filter beside the literals of the code itself, and no string in them
changes anything outside.** -/
theorem contained_of_compile (hT : tables.invalidEntry? = none) (h : compile tables f = .ok q) :
    (∃ ls, Contained f.texts q.text ls) ∧ ∃ ls, Contained f.texts q.countText ls := by
  have hscoped := compile_scoped hT h
  refine ⟨⟨q.lexemes, ?_⟩, q.countLexemes, ?_⟩
  · exact contained_of_passage hT h q.chars_lexemes hscoped.passage hscoped.carries
      fun c hc l hl => Query.mem_lexemes hc hl
  · exact contained_of_passage hT h q.chars_countLexemes hscoped.count_passage
      hscoped.count_carries fun c hc l hl => Query.mem_countLexemes hc hl

/-- A name with a quote, and SQL after it. -/
theorem contained_quote : Tables.invalidEntry? { dataStream := some "streams" } = none ∧
    ∃ q, compile { dataStream := some "streams" }
        (.dataStream { outputNames := .singleton "') OR 1=1; --" }) = .ok q ∧
      ∃ ls, Contained ["') OR 1=1; --"] q.text ls := by
  have hT : Tables.invalidEntry? { dataStream := some "streams" } = none := by decide
  refine ⟨hT, _, rfl, ?_⟩
  exact (contained_of_compile (f := .dataStream { outputNames := .singleton "') OR 1=1; --" })
    hT rfl).1

end ObservationQuery
