import ObservationQuery.Proofs.Sql.Spelling

/-!
# The parts of the text of a query

* `Query.selectText`, `Query.fromText`, `Query.orderText`, `Query.limitText` — what is returned, from
  which rows, in which order, and how many.

Principal result: `Query.text_eq_parts` — the text of a query is made of these parts.
-/

namespace ObservationQuery

/-! ## Lists of tokens -/

namespace TokenStream

theorem text_cons (token : Token) (ts : TokenStream) : text (token :: ts) = token.text ++ text ts :=
  text_append [token] ts

theorem text_intercalate (separator : TokenStream) (parts : List TokenStream) :
    text (separator.intercalate parts) = (text separator).intercalate (parts.map text) := by
  apply String.toList_injective
  rw [toList_text, Sql.flatMap_intercalate, String.toList_intercalate, List.map_map, toList_text]
  congr 1
  exact List.map_congr_left fun part _ => (toList_text part).symm

theorem text_separated (token : Token) (fragments : List String) :
    text (separated token fragments) = (text (separator token)).intercalate fragments := by
  apply String.toList_injective
  rw [toList_text_separated, String.toList_intercalate]

end TokenStream

/-- How a joined table is written. -/
def Join.text (j : Join) : String := " INNER JOIN " ++ j.table ++ " ON " ++ j.on.text

/-- How an order key is written. -/
def OrderKey.text (key : OrderKey) : String :=
  key.expr.text ++
    match key.direction with
    | none => ""
    | some .ascending => " ASC"
    | some .descending => " DESC"

theorem Join.text_tokens (j : Join) : TokenStream.text (.space :: j.tokens) = j.text := by
  simp only [tokens, TokenStream.text_cons, TokenStream.text_nil, Token.text, text,
    String.append_assoc, String.append_empty]
  rfl

theorem OrderKey.text_tokens (key : OrderKey) : TokenStream.text key.tokens = key.text := by
  obtain ⟨expr, direction⟩ := key
  match direction with
  | none | some .ascending | some .descending =>
    simp [tokens, text, TokenStream.text_cons, Token.text]

namespace Query

variable (q : Query)

/-- The expressions of which each value gives one row, and the selected expressions. -/
def selectText : String :=
  (if q.distinct = [] then ""
    else "DISTINCT ON (" ++ ", ".intercalate (q.distinct.map Expr.text) ++ ") ") ++
  if q.select = [] then q.table ++ ".*" else ", ".intercalate (q.select.map Expr.text)

/-- The table, the joined tables and the conditions. -/
def fromText : String :=
  "FROM " ++ q.table ++ String.join (q.joins.map Join.text) ++
    if q.conditions = [] then ""
    else " WHERE " ++ " AND ".intercalate (q.conditions.map Condition.text)

/-- The order keys. -/
def orderText : String :=
  if q.orderBy = [] then "" else " ORDER BY " ++ ", ".intercalate (q.orderBy.map OrderKey.text)

/-- The greatest number of rows. -/
def limitText : String := q.limit.elim "" fun n => " LIMIT " ++ n.toNat.repr

theorem text_distinctOn_selected :
    TokenStream.text (TokenStream.distinctOn q.distinct ++ TokenStream.selected q.table q.select) =
      q.selectText := by
  have hdistinct : TokenStream.text (TokenStream.distinctOn q.distinct) =
      if q.distinct = [] then ""
      else "DISTINCT ON (" ++ ", ".intercalate (q.distinct.map Expr.text) ++ ") " := by
    unfold TokenStream.distinctOn
    split
    · rfl
    · rw [TokenStream.text_append, TokenStream.text_append, TokenStream.text_separated]
      rfl
  have hselect : TokenStream.text (TokenStream.selected q.table q.select) =
      if q.select = [] then q.table ++ ".*" else ", ".intercalate (q.select.map Expr.text) := by
    unfold TokenStream.selected
    split
    · rw [TokenStream.text_cons]
      rfl
    · rw [TokenStream.text_separated]
      rfl
  rw [TokenStream.text_append, hdistinct, hselect, selectText]

theorem text_sourceTokens : TokenStream.text q.sourceTokens = q.fromText := by
  have htable : TokenStream.text [.from, .space, .fragment q.table] = "FROM " ++ q.table := by
    rw [TokenStream.text_cons, TokenStream.text_cons, TokenStream.text_cons, ← String.append_assoc,
      TokenStream.text_nil, String.append_empty]
    rfl
  have hjoins : TokenStream.text (q.joins.flatMap fun join => .space :: join.tokens) =
      String.join (q.joins.map Join.text) := by
    induction q.joins with
    | nil => rfl
    | cons j joins ih =>
      rw [List.flatMap_cons, TokenStream.text_append, j.text_tokens, ih, List.map_cons,
        String.join_cons]
  have hconditions : TokenStream.text (if q.conditions.map Condition.text = [] then []
      else [.space, .where, .space] ++
        TokenStream.separated .and (q.conditions.map Condition.text)) =
      if q.conditions = [] then ""
      else " WHERE " ++ " AND ".intercalate (q.conditions.map Condition.text) := by
    simp only [List.map_eq_nil_iff]
    split
    · rfl
    · rw [TokenStream.text_append, TokenStream.text_separated]
      rfl
  rw [sourceTokens, TokenStream.source, TokenStream.text_append, TokenStream.text_append, htable,
    hjoins, hconditions, fromText]

theorem text_ordered : TokenStream.text (TokenStream.ordered q.orderBy) = q.orderText := by
  unfold TokenStream.ordered orderText
  split
  · rfl
  · have hkeys : (q.orderBy.map OrderKey.tokens).map TokenStream.text =
        q.orderBy.map OrderKey.text := by
      rw [List.map_map]
      exact List.map_congr_left fun key _ => key.text_tokens
    rw [TokenStream.text_append, TokenStream.text_intercalate, hkeys]
    rfl

theorem text_limited : TokenStream.text (TokenStream.limited q.limit) = q.limitText := by
  unfold TokenStream.limited limitText
  split
  · rename_i hnone
    rw [hnone]
    rfl
  · rename_i n hn
    rw [hn]
    rfl

/-- **The text of a query is made of its parts.** -/
theorem text_eq_parts :
    q.text = "SELECT " ++ q.selectText ++ " " ++ q.fromText ++ q.orderText ++ q.limitText := by
  rw [text, tokens_eq, List.append_assoc [_, _], TokenStream.text_append, TokenStream.text_append,
    TokenStream.text_append, TokenStream.text_append, TokenStream.text_append,
    text_distinctOn_selected, text_sourceTokens, text_ordered, text_limited]
  rfl

end Query

end ObservationQuery
