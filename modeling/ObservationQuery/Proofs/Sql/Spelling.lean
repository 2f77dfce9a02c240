import ObservationQuery.Proofs.Sql.Conjunction
import ObservationQuery.Sql.Query

/-!
# Queries as lexemes

The parts of a query as lexemes, in which each string of a filter is the value of a literal.

* `Expr.lexemes`, `Predicate.lexemes`, `Condition.lexemes`, `Query.lexemes`, `Query.countLexemes`.

Principal results: `Condition.chars_lexemes`, `Query.chars_lexemes`, `Query.chars_countLexemes` —
the text of a condition and the two texts of a query are those of their lexemes.
-/

namespace ObservationQuery

open Sql

/-! ## Expressions -/

/-- A step as lexemes. -/
def PathStep.lexemes : PathStep → List Lexeme
  | member name => [.literal name]
  | item index => codes (String.ofList (Text.decimal index))

theorem PathStep.chars_lexemes (s : PathStep) : chars s.lexemes = s.text.toList := by
  cases s with
  | member name => simp [PathStep.lexemes, PathStep.text]
  | item index => rw [PathStep.lexemes, chars_codes, PathStep.text]

namespace Expr

/-- A path as lexemes. -/
def pathLexemes : List PathStep → List Lexeme
  | [] => []
  | [last] => codes "->>" ++ last.lexemes
  | step :: path => codes "->" ++ step.lexemes ++ pathLexemes path

/-- An expression as lexemes. -/
def lexemes : Expr → List Lexeme
  | fragment sql => codes sql
  | column table name => codes (table ++ "." ++ name)
  | documentText table path => codes (table ++ ".data") ++ pathLexemes path
  | group e => codes "(" ++ e.lexemes ++ codes ")"
  | cast e type => codes "(" ++ e.lexemes ++ codes ")" ++ codes ("::" ++ type.text)

/-- A key as lexemes. -/
def keyLexemes : List Expr → List Lexeme
  | [e] => e.lexemes
  | key => codes "(" ++ (codes ", ").intercalate (key.map lexemes) ++ codes ")"

theorem chars_pathLexemes : ∀ path, chars (pathLexemes path) = (pathText path).toList
  | [] => rfl
  | [last] => by
    rw [pathLexemes, pathText, chars_append, chars_codes, last.chars_lexemes, String.toList_append]
  | step :: next :: path => by
    simp only [pathLexemes, pathText, chars_append, chars_codes, step.chars_lexemes,
      chars_pathLexemes (next :: path), String.toList_append]

theorem chars_lexemes : ∀ e : Expr, chars e.lexemes = e.text.toList
  | fragment sql => chars_codes sql
  | column table name => chars_codes _
  | documentText table path => by
    simp only [lexemes, text, chars_append, chars_codes, chars_pathLexemes, String.toList_append]
  | group e => by
    simp only [lexemes, text, chars_append, chars_codes, chars_lexemes e, String.toList_append]
  | cast e type => by
    simp only [lexemes, text, codes_append, chars_append, chars_codes, chars_lexemes e,
      String.toList_append, show ")::".toList = ")".toList ++ "::".toList from rfl,
      List.append_assoc]

/-- Expressions between commas. -/
theorem chars_list (es : List Expr) :
    chars ((codes ", ").intercalate (es.map lexemes)) =
      (", ".intercalate (es.map text)).toList := by
  simp only [chars_intercalate, chars_codes, String.toList_intercalate, List.map_map]
  congr 1
  exact List.map_congr_left fun e _ => chars_lexemes e

theorem chars_keyLexemes : ∀ key, chars (keyLexemes key) = (keyText key).toList
  | [e] => chars_lexemes e
  | [] => rfl
  | e :: e' :: key => by
    simp only [keyLexemes, keyText, chars_append, chars_codes, chars_list, String.toList_append]

end Expr

/-! ## Predicates -/

namespace Predicate

/-- The test that the value of `e` is one of some identifiers, as lexemes. -/
def idsLexemes (e : Expr) : List Int64 → List Lexeme
  | [id] => e.lexemes ++ (codes " = " ++ codes (idText id))
  | ids =>
    e.lexemes ++ (codes " IN " ++
      (codes "(" ++ (codes ", ").intercalate (ids.map fun id => codes (idText id)) ++ codes ")"))

/-- A predicate as lexemes. -/
def lexemes : Predicate → List Lexeme
  | fragment sql => codes sql
  | equal left right => left.lexemes ++ (codes " = " ++ right.lexemes)
  | isNull e => e.lexemes ++ codes " IS NULL"
  | hasId e ids => idsLexemes e ids.toList
  | isText e value => e.lexemes ++ (codes " = " ++ [.literal value])
  | hasText e values =>
    e.lexemes ++ (codes " IN " ++
      (codes "(" ++ (codes ", ").intercalate (values.toList.map ([.literal ·])) ++ codes ")"))
  | isLike e pattern => e.lexemes ++ (codes " ILIKE " ++ [.literal pattern])
  | matchesRegex e pattern =>
    codes "(" ++ e.lexemes ++ codes ")" ++ (codes " ~* " ++ [.literal pattern])
  | hasPath document path =>
    codes "jsonb_path_exists" ++
      (codes "(" ++ (document.lexemes ++ (codes ", " ++ [.literal path])) ++ codes ")")
  | relatesTo geometry relation wkt srid =>
    codes relation.function ++
      (codes "(" ++
        (geometry.lexemes ++ (codes ", ST_GeomFromText" ++
          (codes "(" ++ ([.literal wkt] ++ (codes ", " ++
            codes (String.ofList (Text.signed srid.toInt)))) ++ codes ")"))) ++
        codes ")")
  | liesWithin time first last =>
    codes "tstzrange" ++
      (codes "(" ++ [.literal (boundText first), .code ',', .literal (boundText last), .code ',',
        .code ' ', .literal "[]"] ++ codes ")") ++ (codes " @> " ++ time.lexemes)
  | periodRelates start stop relation first last =>
    codes "tstzrange" ++
      (codes "(" ++ ((start.cast .timestamptz).lexemes ++ (codes "," ++
        (stop.cast .timestamptz).lexemes)) ++ codes ")") ++
      (codes " " ++ codes (relation.operator ++ " ") ++
        [.literal ("[" ++ boundText first ++ "," ++ boundText last ++ "]")] ++
        codes "::tstzrange")

/-- Alternatives as lexemes. -/
def anyLexemes : Predicate → List Predicate → List Lexeme
  | first, [] => first.lexemes
  | first, others =>
    codes "(" ++ (codes " OR ").intercalate ((first :: others).map lexemes) ++ codes ")"

theorem chars_idsLexemes (e : Expr) (ids : List Int64) :
    chars (idsLexemes e ids) = (idsText e ids).toList := by
  have hin : " IN (".toList = " IN ".toList ++ "(".toList := rfl
  unfold idsLexemes idsText
  split
  · simp only [chars_append, chars_codes, e.chars_lexemes, String.toList_append, List.append_assoc]
  · simp only [chars_append, chars_codes, chars_intercalate, e.chars_lexemes, hin,
      String.toList_append, String.toList_intercalate, List.map_map, List.append_assoc,
      Function.comp_def]

theorem chars_lexemes (p : Predicate) : chars p.lexemes = p.text.toList := by
  unfold text
  cases p with
  | fragment sql => exact chars_codes sql
  | equal left right =>
    simp only [lexemes, chars_append, chars_codes, Expr.chars_lexemes, String.toList_append,
      List.append_assoc]
  | isNull e =>
    simp only [lexemes, chars_append, chars_codes, e.chars_lexemes, String.toList_append]
  | hasId e ids => exact chars_idsLexemes e ids.toList
  | isText e value =>
    simp only [lexemes, chars_append, chars_codes, chars_literal_singleton, e.chars_lexemes,
      String.toList_append, List.append_assoc]
  | hasText e values =>
    have hin : " IN (".toList = " IN ".toList ++ "(".toList := rfl
    simp only [lexemes, chars_append, chars_codes, chars_literal_singleton,
      chars_intercalate, e.chars_lexemes, hin, String.toList_append, String.toList_intercalate,
      List.map_map, List.append_assoc, Function.comp_def]
  | isLike e pattern =>
    simp only [lexemes, chars_append, chars_codes, chars_literal_singleton, e.chars_lexemes,
      String.toList_append, List.append_assoc]
  | matchesRegex e pattern =>
    have hclose : ") ~* ".toList = ")".toList ++ " ~* ".toList := rfl
    simp only [lexemes, chars_append, chars_codes, chars_literal_singleton, e.chars_lexemes,
      hclose, String.toList_append, List.append_assoc]
  | hasPath document path =>
    have hopen : "jsonb_path_exists(".toList = "jsonb_path_exists".toList ++ "(".toList := rfl
    simp only [lexemes, chars_append, chars_codes, chars_literal_singleton,
      document.chars_lexemes, hopen, String.toList_append, List.append_assoc]
  | relatesTo geometry relation wkt srid =>
    have hopen : ", ST_GeomFromText(".toList = ", ST_GeomFromText".toList ++ "(".toList := rfl
    have hclose : "))".toList = ")".toList ++ ")".toList := rfl
    simp only [lexemes, chars_append, chars_codes, chars_literal_singleton,
      geometry.chars_lexemes, hopen, hclose, String.toList_append, List.append_assoc]
  | liesWithin time first last =>
    have hopen : "tstzrange(".toList = "tstzrange".toList ++ "(".toList := rfl
    have hclose : ", '[]') @> ".toList =
        ',' :: ' ' :: ("'[]'".toList ++ (")".toList ++ " @> ".toList)) := rfl
    have hbounds : (quote "[]").toList = "'[]'".toList := by simp [escapeQuote]
    simp only [lexemes, chars_append, chars_codes, chars_code, chars_literal,
      time.chars_lexemes, hopen, hclose, hbounds, String.toList_append, List.append_assoc,
      List.cons_append, List.nil_append, show ",".toList = [','] from rfl]
  | periodRelates start stop relation first last =>
    have hopen : "tstzrange(".toList = "tstzrange".toList ++ "(".toList := rfl
    have hclose : ") ".toList = ")".toList ++ " ".toList := rfl
    simp only [lexemes, chars_append, chars_codes, chars_literal_singleton,
      Expr.chars_lexemes, hopen, hclose, String.toList_append, List.append_assoc]

theorem chars_anyLexemes (first : Predicate) (others : List Predicate) :
    chars (anyLexemes first others) = (anyText first others).toList := by
  unfold anyLexemes anyText
  split
  · exact first.chars_lexemes
  · simp only [chars_append, chars_codes, chars_intercalate, String.toList_append,
      String.toList_intercalate, List.map_map]
    congr 3
    exact List.map_congr_left fun p _ => p.chars_lexemes

end Predicate

/-! ## Queries -/

/-- The clause of a joined table as lexemes. -/
def Join.lexemes (j : Join) : List Lexeme :=
  codes "INNER JOIN " ++ codes j.table ++ codes " ON " ++ j.on.lexemes

/-- How a direction is written after its expression. -/
def OrderKey.directionText : Option Direction → String
  | none => ""
  | some .ascending => " ASC"
  | some .descending => " DESC"

/-- An order key as lexemes. -/
def OrderKey.lexemes (key : OrderKey) : List Lexeme :=
  key.expr.lexemes ++ codes (directionText key.direction)

namespace Sql

/-- The table, the joined tables and the conditions, which are given as lexemes. -/
def sourceLexemes (table : String) (joins : List Join) (conditions : List (List Lexeme)) :
    List Lexeme :=
  codes "FROM " ++ codes table ++ joins.flatMap (fun j => codes " " ++ j.lexemes) ++
    (if conditions = [] then [] else codes " WHERE " ++ (codes " AND ").intercalate conditions)

/-- The expressions each value of which gives one row, as lexemes. -/
def distinctLexemes (distinct : List Expr) : List Lexeme :=
  if distinct = [] then []
  else codes "DISTINCT ON " ++
    (codes "(" ++ (codes ", ").intercalate (distinct.map Expr.lexemes) ++ codes ")") ++ codes " "

/-- The selected expressions as lexemes. -/
def selectedLexemes (table : String) (select : List Expr) : List Lexeme :=
  if select = [] then codes table ++ codes ".*"
  else (codes ", ").intercalate (select.map Expr.lexemes)

/-- The order keys as lexemes. -/
def orderedLexemes (keys : List OrderKey) : List Lexeme :=
  if keys = [] then []
  else codes " ORDER BY " ++ (codes ", ").intercalate (keys.map OrderKey.lexemes)

/-- The greatest number of rows as lexemes. -/
def limitedLexemes : Option UInt64 → List Lexeme
  | none => []
  | some n => codes " LIMIT " ++ codes n.toNat.repr

end Sql

mutual

/-- A condition as lexemes. -/
def Condition.lexemes : Condition → List Lexeme
  | .anyOf first others => Predicate.anyLexemes first others
  | .inQuery key query =>
    Expr.keyLexemes key ++ (codes " IN " ++ (codes "(" ++ query.lexemes ++ codes ")"))

/-- Conditions as lexemes. -/
def Condition.lexemeLists : List Condition → List (List Lexeme)
  | [] => []
  | condition :: conditions => condition.lexemes :: Condition.lexemeLists conditions

/-- The query that returns the rows, as lexemes. -/
def Query.lexemes : Query → List Lexeme
  | ⟨table, select, distinct, joins, conditions, orderBy, limit⟩ =>
    codes "SELECT " ++ distinctLexemes distinct ++ selectedLexemes table select ++ codes " " ++
      sourceLexemes table joins (Condition.lexemeLists conditions) ++ orderedLexemes orderBy ++
      limitedLexemes limit

end

/-- The query that counts the rows, as lexemes. -/
def Query.countLexemes (q : Query) : List Lexeme :=
  codes "SELECT COUNT" ++ (codes "(" ++ codes "*" ++ codes ")") ++ codes " " ++
    (if q.distinct = [] then sourceLexemes q.table q.joins (Condition.lexemeLists q.conditions)
     else codes "FROM " ++ (codes "(" ++ { q with limit := none }.lexemes ++ codes ")") ++
       codes " AS counted")

theorem Condition.lexemeLists_eq_map (cs : List Condition) : lexemeLists cs = cs.map lexemes := by
  induction cs with
  | nil => rfl
  | cons c cs ih => rw [lexemeLists, ih, List.map_cons]

namespace TokenStream

theorem toList_text (ts : TokenStream) : (text ts).toList = ts.flatMap (·.text.toList) := by
  rw [text, String.toList_join, List.flatMap_map]

theorem toList_text_append (a b : TokenStream) :
    (text (a ++ b)).toList = (text a).toList ++ (text b).toList := by
  rw [text_append, String.toList_append]

theorem toList_text_separated (token : Token) (fragments : List String) :
    (text (separated token fragments)).toList =
      (text (separator token)).toList.intercalate (fragments.map String.toList) := by
  rw [toList_text, toList_text, separated, flatMap_intercalate, List.map_map]
  congr 1
  exact List.map_congr_left fun sql _ => by simp [Token.text]

theorem toList_text_exprs (es : List Expr) :
    (text (separated .comma (es.map Expr.text))).toList =
      chars ((codes ", ").intercalate (es.map Expr.lexemes)) := by
  rw [toList_text_separated, Expr.chars_list, String.toList_intercalate]
  rfl

theorem toList_text_source (table : String) (joins : List Join) {conditions : List String}
    {parts : List (List Lexeme)} (h : conditions.map String.toList = parts.map chars) :
    (text (source table joins conditions)).toList = chars (sourceLexemes table joins parts) := by
  have hjoin : ∀ j : Join, (text (.space :: j.tokens)).toList = chars (codes " " ++ j.lexemes) := by
    intro j
    simp [toList_text, Join.tokens, Join.lexemes, Token.text, j.on.chars_lexemes]
  have hjoins : (text (joins.flatMap fun j => .space :: j.tokens)).toList =
      chars (joins.flatMap fun j => codes " " ++ j.lexemes) := by
    rw [toList_text, chars, List.flatMap_assoc, List.flatMap_assoc]
    congr 1
    funext j
    rw [← toList_text]
    exact hjoin j
  have hempty : conditions = [] ↔ parts = [] := by
    rw [← @List.map_eq_nil_iff _ _ String.toList, h, List.map_eq_nil_iff]
  rw [source, sourceLexemes, toList_text_append, toList_text_append, chars_append, chars_append,
    hjoins]
  congr 1
  · simp [toList_text, Token.text]
  · by_cases hc : conditions = []
    · rw [if_pos hc, if_pos (hempty.mp hc)]
      rfl
    · rw [if_neg hc, if_neg (mt hempty.mpr hc), toList_text_append, toList_text_separated, h,
        chars_append, chars_intercalate]
      rfl

theorem toList_text_distinctOn (es : List Expr) :
    (text (distinctOn es)).toList = chars (distinctLexemes es) := by
  unfold distinctOn distinctLexemes
  split
  · rfl
  · rw [toList_text_append, toList_text_append, toList_text_exprs]
    simp [toList_text, Token.text]

theorem toList_text_selected (table : String) (es : List Expr) :
    (text (selected table es)).toList = chars (selectedLexemes table es) := by
  unfold selected selectedLexemes
  split
  · simp [toList_text, Token.text]
  · exact toList_text_exprs es

theorem toList_text_ordered (keys : List OrderKey) :
    (text (ordered keys)).toList = chars (orderedLexemes keys) := by
  have hkey : ∀ k : OrderKey, (text k.tokens).toList = chars k.lexemes := by
    rintro ⟨e, d⟩
    rcases d with _ | _ | _ <;>
      simp [toList_text, OrderKey.tokens, OrderKey.lexemes, OrderKey.directionText, Token.text,
        e.chars_lexemes]
  unfold ordered orderedLexemes
  split
  · rfl
  · have hkeys : keys.map ((·.flatMap fun t => t.text.toList) ∘ OrderKey.tokens) =
        keys.map (chars ∘ OrderKey.lexemes) :=
      List.map_congr_left fun k _ => by
        rw [Function.comp_apply, ← toList_text]
        exact hkey k
    rw [toList_text_append, toList_text _, toList_text _, flatMap_intercalate, chars_append,
      chars_intercalate, List.map_map, List.map_map, hkeys]
    rfl

theorem toList_text_limited (limit : Option UInt64) :
    (text (limited limit)).toList = chars (limitedLexemes limit) := by
  cases limit with
  | none => rfl
  | some n => simp [toList_text, limited, limitedLexemes, Token.text]

end TokenStream

open TokenStream

mutual

theorem Condition.chars_lexemes : ∀ c : Condition, chars c.lexemes = c.text.toList
  | .anyOf first others => by
    rw [Condition.lexemes, Condition.text]
    exact Predicate.chars_anyLexemes first others
  | .inQuery key query => by
    have hin : " IN (".toList = " IN ".toList ++ "(".toList := rfl
    have hquery := query.chars_lexemes
    simp only [Condition.lexemes, Condition.text, chars_append, chars_codes, Expr.chars_keyLexemes,
      String.toList_append, hin, hquery, List.append_assoc]

theorem Condition.chars_lexemeLists : ∀ cs : List Condition,
    (Condition.texts cs).map String.toList = (Condition.lexemeLists cs).map chars
  | [] => rfl
  | c :: cs => by
    rw [Condition.texts, Condition.lexemeLists, List.map_cons, List.map_cons, c.chars_lexemes,
      Condition.chars_lexemeLists cs]

theorem Query.chars_lexemes : ∀ q : Query, chars q.lexemes = q.tokens.text.toList
  | ⟨table, select, distinct, joins, conditions, orderBy, limit⟩ => by
    have hsource := toList_text_source table joins (Condition.chars_lexemeLists conditions)
    simp only [Query.lexemes, Query.tokens, toList_text_append, toList_text_distinctOn,
      toList_text_selected, toList_text_ordered, toList_text_limited, hsource, chars_append]
    simp [toList_text, Token.text]

end

theorem Query.chars_countLexemes (q : Query) : chars q.countLexemes = q.countText.toList := by
  have hsource := toList_text_source q.table q.joins (Condition.chars_lexemeLists q.conditions)
  rw [Condition.texts_eq_map] at hsource
  rw [countText, countTokens, toList_text_append, countLexemes]
  split
  · rw [sourceTokens, hsource]
    simp [toList_text, Token.text]
  · rw [toList_text_append, toList_text_append, ← Query.chars_lexemes]
    simp [toList_text, Token.text]

end ObservationQuery
