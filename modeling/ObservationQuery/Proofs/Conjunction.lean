import ObservationQuery.Proofs.Compile.Filter

/-!
# Conditions are found again in the text of a query

* `Query.Embeds` — a query stands in another, at any depth.
* `Query.headText`, `Query.tailText` — what stands before and after the conditions in the text of a
  query.
* `Query.Separable` — no condition has a connective outside its literals and parentheses, and the
  text between head and tail falls into the conditions.

Principal results: `Query.Scoped.separable` — each query that reads only its own tables is
separable; `separable_of_compile` — so is each query that stands in a compiled query.
-/

namespace ObservationQuery

open Sql TokenStream

namespace Query

/-- `r` is `q`, or the query of a condition in it, at any depth. -/
inductive Embeds (q : Query) : Query → Prop
  | refl : Embeds q q
  | condition {r s : Query} {key : List Expr} (h : Embeds q r)
    (hc : .inQuery key s ∈ r.conditions) : Embeds q s

/-- The text of a query before its conditions. -/
def headText (q : Query) : String :=
  ({ q with conditions := [], orderBy := [], limit := none } : Query).text

/-- The text of a query after its conditions: its order and its limit. -/
def tailText (q : Query) : String := TokenStream.text (ordered q.orderBy ++ limited q.limit)

/-- The conditions are found again in the text of the query. -/
structure Separable (q : Query) : Prop where
  /-- A condition closes each parenthesis that it opens, and has no connective outside its literals
  and parentheses. -/
  free : ∀ c ∈ q.conditions, ∃ ls, scan c.text.toList = some ls ∧ Sql.Balanced ls ∧
    FreeOf " AND " ls ∧ FreeOf " OR " ls
  /-- Without conditions the query ends after its tables. -/
  nothing : q.conditions = [] → q.text = q.headText ++ q.tailText
  /-- The text after the word that begins the conditions falls into them. -/
  found : q.conditions ≠ [] → ∃ body, q.text = q.headText ++ " WHERE " ++ body ++ q.tailText ∧
    conjuncts body.toList = some (q.conditions.map fun c => c.text.toList)

theorem headText_eq (q : Query) : q.headText = TokenStream.text ([.select, .space] ++
    distinctOn q.distinct ++ selected q.table q.select ++ [.space] ++
      source q.table q.joins []) := by
  rw [headText, text, tokens_eq]
  show TokenStream.text (_ ++ _ ++ _ ++ _ ++ source q.table q.joins [] ++ [] ++ []) = _
  rw [List.append_nil, List.append_nil]

theorem text_eq (q : Query) : q.text = q.headText ++
    TokenStream.text (if q.conditions = [] then []
      else [.space, .where, .space] ++ separated .and (q.conditions.map Condition.text)) ++
    q.tailText := by
  rw [headText_eq, tailText, text, tokens_eq, sourceTokens, source, source, if_pos rfl]
  simp only [List.map_eq_nil_iff, TokenStream.text_append, String.append_assoc,
    TokenStream.text_nil, String.append_empty]

/-- The text of some conditions, where each of them is a phrase, falls into them. -/
theorem conjuncts_conditions {cs : List Condition} (hne : cs ≠ [])
    (h : ∀ ls ∈ Condition.lexemeLists cs, Phrase ls) :
    conjuncts (TokenStream.text (separated .and (cs.map Condition.text))).toList =
      some (cs.map fun c => c.text.toList) := by
  have hchars : (Condition.lexemeLists cs).map chars = cs.map fun c => c.text.toList := by
    rw [Condition.lexemeLists_eq_map, List.map_map]
    exact List.map_congr_left fun c _ => c.chars_lexemes
  have htext : (TokenStream.text (separated .and (cs.map Condition.text))).toList =
      chars ((codes " AND ").intercalate (Condition.lexemeLists cs)) := by
    rw [toList_text_separated, chars_intercalate, hchars, List.map_map]
    rfl
  rw [htext, conjuncts_join ?_ h, hchars]
  rw [Condition.lexemeLists_eq_map]
  exact fun hnil => hne (List.map_eq_nil_iff.mp hnil)

/-- **In a query that reads its own tables, the conditions are found again.** -/
theorem Scoped.separable {q : Query} (h : q.Scoped) : q.Separable := by
  have hread := (scoped_iff q).mp h
  refine ⟨fun c hc => ?_, fun hnil => ?_, fun hne => ?_⟩
  · have hphrase := (hread.conditions c hc).phrase hread.scope
    refine ⟨c.lexemes, ?_, hphrase.balanced, hphrase.freeOf_and, hphrase.freeOf_or⟩
    rw [← c.chars_lexemes]
    exact scan_chars hphrase.tame
  · rw [text_eq, if_pos hnil, TokenStream.text_nil, String.append_empty]
  · refine ⟨_, ?_, conjuncts_conditions hne hread.phrases⟩
    rw [text_eq, if_neg hne, TokenStream.text_append, ← String.append_assoc]
    rfl

/-- What stands in a query that reads its own tables reads its own tables too. -/
theorem Embeds.scoped {q r : Query} (h : q.Embeds r) (hq : q.Scoped) : r.Scoped := by
  induction h with
  | refl => exact hq
  | condition h hc ih =>
    have hread := ((scoped_iff _).mp ih).conditions _ hc
    rw [Condition.Reads] at hread
    exact hread.2.2

end Query

/-- **In a compiled query, and in each query that stands in it, every condition is balanced and has
no connective outside its literals and parentheses, and the text after the word that begins the
conditions falls into exactly these conditions, in order.** -/
theorem separable_of_compile {tables : Tables} {f : Filter} {q : Query}
    (hT : tables.invalidEntry? = none) (h : compile tables f = .ok q) :
    ∀ r, q.Embeds r → r.Separable :=
  fun _ hr => (hr.scoped (compile_scoped hT h)).separable

/-- Command streams with a matching command: a query with a query in it. -/
theorem separable_commands :
    Tables.invalidEntry? { commandStream := some "streams", command := some "commands" } = none ∧
      ∃ q, compile { commandStream := some "streams", command := some "commands" }
          (.commandStream { commands := some { senderIds := .singleton "a AND b" } }) = .ok q ∧
        ∀ r, q.Embeds r → r.Separable := by
  have hT : Tables.invalidEntry? { commandStream := some "streams", command := some "commands" } =
      none := by decide
  refine ⟨hT, _, rfl, ?_⟩
  exact separable_of_compile (f := .commandStream
    { commands := some { senderIds := .singleton "a AND b" } }) hT rfl

end ObservationQuery
