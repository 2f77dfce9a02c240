import ObservationQuery.Proofs.Sql.Wording

/-!
# The columns that a text refers to

Outside the literals of a text a word is a longest run of the characters of names, of dots and of
stars. What is neither a numeral nor a word of SQL is a reference: a column, or all columns, of the
table that is named before its last dot.

* `Sql.words` — the words of some lexemes; `Sql.isKnown` — the words that refer to nothing.
* `Sql.ColumnOf` — a word refers to a table in a list.
* `Sql.Qualified`, `Sql.ReadsOnly` — all references of some lexemes, and of a text, do.

Principal results: `Expr.Reads.qualified`, `Predicate.Reads.qualified` — what reads the tables of a
list refers to no others.
-/

namespace ObservationQuery

namespace Sql

/-! ## Words -/

namespace Lexeme

/-- Whether the lexeme is no part of a word. -/
def separates : Lexeme → Bool
  | code c => !(isPlain c || c == '*')
  | literal _ => true

/-- Whether the lexeme is a digit. -/
def isDigit : Lexeme → Bool
  | code c => c.isDigit
  | literal _ => false

end Lexeme

/-- The words of some lexemes, with an empty one where nothing stands between two separators. -/
def words (ls : List Lexeme) : List (List Lexeme) := ls.splitOnP Lexeme.separates

/-- The words of SQL, of its functions and of its types that stand in the clauses of queries. -/
def sqlWords : List String :=
  ["IN", "IS", "NULL", "OR", "ILIKE", "*", "DISTINCT", "ON", "ORDER", "BY", "ASC", "DESC",
    "jsonb_path_exists", "ST_Intersects", "ST_Contains", "ST_Within", "ST_GeomFromText",
    "tstzrange", "bigint", "timestamptz"]

/-- Whether the word is a numeral or a word of SQL. -/
def isKnown (word : List Lexeme) : Bool :=
  word.all Lexeme.isDigit || (sqlWords.map codes).contains word

/-- The word is a column, or all columns, of a table in `scope`. -/
def ColumnOf (scope : List String) (word : List Lexeme) : Prop :=
  ∃ table ∈ scope, ∃ column : String, (isIdentifier column.toList = true ∨ column = "*") ∧
    word = codes (table ++ "." ++ column)

/-- Every word that is no numeral and no word of SQL refers to a table in `scope`. -/
def Qualified (scope : List String) (ls : List Lexeme) : Prop :=
  ∀ word ∈ words ls, isKnown word = true ∨ ColumnOf scope word

/-- The text is complete, and outside its literals it refers to tables in `scope` only. -/
def ReadsOnly (scope : List String) (sql : String) : Prop :=
  ∃ ls, scan sql.toList = some ls ∧ Qualified scope ls

theorem words_append {l : Lexeme} (hl : l.separates = true) (a b : List Lexeme) :
    words (a ++ l :: b) = words a ++ words b := List.splitOnP_append_cons a b hl

theorem words_of_word {ls : List Lexeme} (h : ∀ l ∈ ls, l.separates = false) : words ls = [ls] :=
  List.splitOnP_eq_singleton h

/-! ## Texts made of parts -/

/-- The first lexeme is no part of a word. -/
def opens (ls : List Lexeme) : Bool := ls.head?.any Lexeme.separates

/-- The last lexeme is no part of a word. -/
def closes (ls : List Lexeme) : Bool := ls.getLast?.any Lexeme.separates

theorem closes_append {b : List Lexeme} (h : closes b = true) (a : List Lexeme) :
    closes (a ++ b) = true := by
  rw [closes] at h
  rw [closes, List.getLast?_append]
  cases hlast : b.getLast? with
  | none =>
    rw [hlast] at h
    cases h
  | some l =>
    rw [hlast] at h
    exact h

namespace Qualified

variable {scope : List String} {a b ls : List Lexeme}

theorem of_known (h : (words ls).all isKnown = true) : Qualified scope ls :=
  fun word hword => .inl (List.all_eq_true.mp h word hword)

/-- Two texts of which the first ends, or the second begins, with a separator. -/
theorem append (ha : Qualified scope a) (hb : Qualified scope b)
    (h : closes a = true ∨ opens b = true) : Qualified scope (a ++ b) := by
  intro word hword
  rcases h with h | h
  · rcases List.eq_nil_or_concat a with rfl | ⟨a, l, rfl⟩
    · cases h
    · rw [List.concat_eq_append] at *
      have hl : l.separates = true := by simpa [closes] using h
      have hfirst := words_append hl a []
      rw [List.append_assoc, List.singleton_append, words_append hl, List.mem_append] at hword
      rcases hword with hword | hword
      · refine ha word ?_
        rw [hfirst]
        exact List.mem_append_left _ hword
      · exact hb word hword
  · cases b with
    | nil => cases h
    | cons l b =>
      have hl : l.separates = true := h
      have hsecond := words_append hl [] b
      rw [words_append hl, List.mem_append] at hword
      rcases hword with hword | hword
      · exact ha word hword
      · refine hb word ?_
        rw [List.nil_append] at hsecond
        rw [hsecond]
        exact List.mem_append_right _ hword

/-- A text in parentheses. -/
theorem paren (h : Qualified scope ls) : Qualified scope (codes "(" ++ ls ++ codes ")") :=
  have hopen : Qualified scope (codes "(") := of_known (by decide)
  have hclose : Qualified scope (codes ")") := of_known (by decide)
  (hopen.append h (.inl rfl)).append hclose (.inr rfl)

/-- Texts with a separator between them. -/
theorem intercalate {sep : List Lexeme} (hsep : Qualified scope sep) (hopens : opens sep = true)
    (hcloses : closes sep = true) : ∀ {parts : List (List Lexeme)},
    (∀ p ∈ parts, Qualified scope p) → Qualified scope (sep.intercalate parts)
  | [], _ => of_known rfl
  | [p], h => by
    rw [List.intercalate_singleton]
    exact h p (by simp)
  | p :: q :: parts, h => by
    have hrest : Qualified scope (sep.intercalate (q :: parts)) :=
      intercalate hsep hopens hcloses fun r hr => h r (List.mem_cons_of_mem _ hr)
    have hfirst := (h p (by simp)).append hsep (.inr hopens)
    rw [List.intercalate_cons_cons]
    exact hfirst.append hrest (.inl (closes_append hcloses p))

/-- Texts between commas. -/
theorem list {parts : List (List Lexeme)} (h : ∀ p ∈ parts, Qualified scope p) :
    Qualified scope ((codes ", ").intercalate parts) :=
  intercalate (of_known (by decide)) rfl rfl h

end Qualified

variable (scope : List String)

theorem qualified_literal (v : String) : Qualified scope [.literal v] := .of_known rfl

theorem qualified_decimal (n : Nat) : Qualified scope ((Text.decimal n).map .code) := by
  have hdigit : ∀ l ∈ (Text.decimal n).map Lexeme.code, l.isDigit = true := by
    intro l hl
    obtain ⟨c, hc, rfl⟩ := List.mem_map.mp hl
    exact Text.isDigit_of_mem_decimal hc
  have hword : ∀ l ∈ (Text.decimal n).map Lexeme.code, l.separates = false := by
    intro l hl
    obtain ⟨c, hc, rfl⟩ := List.mem_map.mp hl
    simp [Lexeme.separates, isPlain_of_isDigit (Text.isDigit_of_mem_decimal hc)]
  intro word hmem
  rw [words_of_word hword, List.mem_singleton] at hmem
  rw [hmem, isKnown, List.all_eq_true.mpr hdigit]
  exact .inl rfl

theorem qualified_signed (n : Int) : Qualified scope ((Text.signed n).map .code) := by
  unfold Text.signed
  split
  · have hminus : Qualified scope [.code '-'] := .of_known (by decide)
    exact hminus.append (qualified_decimal scope n.natAbs) (.inl rfl)
  · exact qualified_decimal scope n.natAbs

variable {scope}

/-- A table and a column, or a star, are one word. -/
theorem qualified_column {table column : String} (ht : table ∈ scope)
    (htable : isTableName table = true)
    (hcolumn : isIdentifier column.toList = true ∨ column = "*") :
    Qualified scope (codes (table ++ "." ++ column)) := by
  have hword : ∀ l ∈ codes (table ++ "." ++ column), l.separates = false := by
    intro l hl
    rw [codes_append, codes_append] at hl
    simp only [codes, List.mem_append, List.mem_map] at hl
    rcases hl with (⟨c, hc, rfl⟩ | ⟨c, hc, rfl⟩) | ⟨c, hc, rfl⟩
    · simp [Lexeme.separates, isPlain_of_isTableName htable c hc]
    · rw [List.mem_singleton.mp hc]
      rfl
    · rcases hcolumn with hcolumn | rfl
      · simp [Lexeme.separates, isPlain_of_isIdentifier hcolumn c hc]
      · rw [List.mem_singleton.mp hc]
        rfl
  intro word hmem
  rw [words_of_word hword] at hmem
  exact .inr ⟨table, ht, column, hcolumn, List.mem_singleton.mp hmem⟩

end Sql

open Sql

/-! ## Expressions -/

theorem PathStep.qualified_lexemes (scope : List String) (s : PathStep) :
    Qualified scope s.lexemes := by
  cases s with
  | member name => exact qualified_literal scope name
  | item index =>
    rw [lexemes, codes, String.toList_ofList]
    exact qualified_decimal scope index

namespace Expr

variable {scope : List String}

theorem qualified_pathLexemes : ∀ path, Qualified scope (pathLexemes path)
  | [] => .of_known rfl
  | [last] => by
    have harrow : Qualified scope (codes "->>") := .of_known (by decide)
    exact harrow.append (last.qualified_lexemes scope) (.inl rfl)
  | step :: next :: path => by
    have harrow : Qualified scope (codes "->") := .of_known (by decide)
    refine (harrow.append (step.qualified_lexemes scope) (.inl rfl)).append
      (qualified_pathLexemes (next :: path)) (.inr ?_)
    cases path <;> rfl

theorem Reads.qualified (hs : ∀ t ∈ scope, isTableName t = true) : ∀ {e : Expr}, e.Reads scope →
    Qualified scope e.lexemes
  | column table name, h => qualified_column h.1 (hs table h.1) (.inl h.2)
  | documentText table path, h => by
    have hdata : Qualified scope (codes (table ++ "." ++ "data")) :=
      qualified_column h.1 (hs table h.1) (.inl (by decide))
    have htext : table ++ ".data" = table ++ "." ++ "data" := by
      rw [String.append_assoc]
      rfl
    rw [lexemes, htext]
    cases path with
    | nil => simpa [pathLexemes] using hdata
    | cons step path =>
      refine hdata.append (qualified_pathLexemes (step :: path)) (.inr ?_)
      cases path <;> rfl
  | group e, h => (Reads.qualified (e := e) hs h).paren
  | cast e type, h => by
    have he := (Reads.qualified (e := e) hs h).paren
    cases type <;> exact he.append (.of_known (by decide)) (.inr rfl)

theorem qualified_list (hs : ∀ t ∈ scope, isTableName t = true) {es : List Expr}
    (h : ∀ e ∈ es, e.Reads scope) :
    Qualified scope ((codes ", ").intercalate (es.map lexemes)) := by
  refine Qualified.list fun ls hls => ?_
  obtain ⟨e, he, rfl⟩ := List.mem_map.mp hls
  exact (h e he).qualified hs

theorem qualified_keyLexemes (hs : ∀ t ∈ scope, isTableName t = true) : ∀ {key : List Expr},
    (∀ e ∈ key, e.Reads scope) → Qualified scope (keyLexemes key)
  | [], _ => .of_known (by decide)
  | [e], h => (h e (by simp)).qualified hs
  | _ :: _ :: _, h => (qualified_list hs h).paren

end Expr

/-! ## Predicates -/

namespace Predicate

variable {scope : List String}

theorem qualified_idText (id : Int64) : Qualified scope (codes (idText id)) := by
  rw [idText, codes, String.toList_ofList]
  exact qualified_signed scope _

theorem qualified_idsLexemes {e : Expr} (he : Qualified scope e.lexemes) (ids : List Int64) :
    Qualified scope (idsLexemes e ids) := by
  unfold idsLexemes
  split
  · rename_i id
    have hequal : Qualified scope (codes " = ") := .of_known (by decide)
    exact he.append (hequal.append (qualified_idText id) (.inl rfl)) (.inr rfl)
  · have hlist : Qualified scope ((codes ", ").intercalate (ids.map (codes ∘ idText))) := by
      refine Qualified.list fun ls hls => ?_
      obtain ⟨id, -, rfl⟩ := List.mem_map.mp hls
      exact qualified_idText id
    have hin : Qualified scope (codes " IN ") := .of_known (by decide)
    exact he.append (hin.append hlist.paren (.inl rfl)) (.inr rfl)

/-- **A predicate refers to the tables that it reads, and to no others.** -/
theorem Reads.qualified (hs : ∀ t ∈ scope, isTableName t = true) {p : Predicate}
    (h : p.Reads scope) : Qualified scope p.lexemes := by
  obtain ⟨hsql, he⟩ := h
  cases p with
  | fragment sql => exact absurd rfl (hsql sql)
  | equal left right =>
    have hleft := (he left (by simp [exprs])).qualified hs
    have hright := (he right (by simp [exprs])).qualified hs
    have hequal : Qualified scope (codes " = ") := .of_known (by decide)
    exact hleft.append (hequal.append hright (.inl rfl)) (.inr rfl)
  | isNull e =>
    have he := (he e (by simp [exprs])).qualified hs
    exact he.append (.of_known (by decide)) (.inr rfl)
  | hasId e ids => exact qualified_idsLexemes ((he e (by simp [exprs])).qualified hs) ids.toList
  | isText e value =>
    have he := (he e (by simp [exprs])).qualified hs
    have hequal : Qualified scope (codes " = ") := .of_known (by decide)
    exact he.append (hequal.append (qualified_literal scope value) (.inl rfl)) (.inr rfl)
  | hasText e values =>
    have he := (he e (by simp [exprs])).qualified hs
    have hlist : Qualified scope
        ((codes ", ").intercalate (values.toList.map ([.literal ·]))) := by
      refine Qualified.list fun ls hls => ?_
      obtain ⟨v, -, rfl⟩ := List.mem_map.mp hls
      exact qualified_literal scope v
    have hin : Qualified scope (codes " IN ") := .of_known (by decide)
    exact he.append (hin.append hlist.paren (.inl rfl)) (.inr rfl)
  | isLike e pattern =>
    have he := (he e (by simp [exprs])).qualified hs
    have hlike : Qualified scope (codes " ILIKE ") := .of_known (by decide)
    exact he.append (hlike.append (qualified_literal scope pattern) (.inl rfl)) (.inr rfl)
  | matchesRegex e pattern =>
    have he := (he e (by simp [exprs])).qualified hs
    have hmatches : Qualified scope (codes " ~* ") := .of_known (by decide)
    exact he.paren.append (hmatches.append (qualified_literal scope pattern) (.inl rfl)) (.inr rfl)
  | hasPath document path =>
    have he := (he document (by simp [exprs])).qualified hs
    have hname : Qualified scope (codes "jsonb_path_exists") := .of_known (by decide)
    have hcomma : Qualified scope (codes ", ") := .of_known (by decide)
    have hpath := hcomma.append (qualified_literal scope path) (.inl rfl)
    exact hname.append (he.append hpath (.inr rfl)).paren (.inr rfl)
  | relatesTo geometry relation wkt srid =>
    have he := (he geometry (by simp [exprs])).qualified hs
    have hfunction : Qualified scope (codes relation.function) :=
      .of_known (by cases relation <;> decide)
    have hconvert : Qualified scope (codes ", ST_GeomFromText") := .of_known (by decide)
    have hcomma : Qualified scope (codes ", ") := .of_known (by decide)
    have hsrid : Qualified scope (codes (String.ofList (Text.signed srid.toInt))) := by
      rw [codes, String.toList_ofList]
      exact qualified_signed scope _
    have hrest := hcomma.append hsrid (.inl rfl)
    have hgeometry := (qualified_literal scope wkt).append hrest (.inr rfl)
    have harguments := he.append (hconvert.append hgeometry.paren (.inr rfl)) (.inr rfl)
    exact hfunction.append harguments.paren (.inr rfl)
  | liesWithin time first last =>
    have he := (he time (by simp [exprs])).qualified hs
    have hname : Qualified scope (codes "tstzrange") := .of_known (by decide)
    have hbounds : Qualified scope [.literal (boundText first), .code ',',
        .literal (boundText last), .code ',', .code ' ', .literal "[]"] := .of_known rfl
    have hcontains : Qualified scope (codes " @> ") := .of_known (by decide)
    have hrange := hname.append hbounds.paren (.inr rfl)
    exact hrange.append (hcontains.append he (.inl rfl)) (.inr rfl)
  | periodRelates start stop relation first last =>
    have hstart := (he start (by simp [exprs])).qualified hs
    have hstop := (he stop (by simp [exprs])).qualified hs
    have hname : Qualified scope (codes "tstzrange") := .of_known (by decide)
    have hcomma : Qualified scope (codes ",") := .of_known (by decide)
    have hcast : Qualified scope (codes ("::" ++ SqlType.timestamptz.text)) :=
      .of_known (by decide)
    have hinterval : Qualified scope (codes " " ++ codes (relation.operator ++ " ") ++
        [.literal ("[" ++ boundText first ++ "," ++ boundText last ++ "]")] ++
        codes "::tstzrange") := by
      cases relation <;> exact .of_known rfl
    have hperiod := (hstart.paren.append hcast (.inr rfl)).append
      (hcomma.append (hstop.paren.append hcast (.inr rfl)) (.inl rfl)) (.inr rfl)
    exact (hname.append hperiod.paren (.inr rfl)).append hinterval (.inr rfl)

theorem qualified_anyLexemes (hs : ∀ t ∈ scope, isTableName t = true) {first : Predicate}
    {others : List Predicate} (hfirst : first.Reads scope) (hothers : ∀ p ∈ others, p.Reads scope) :
    Qualified scope (anyLexemes first others) := by
  unfold anyLexemes
  split
  · exact hfirst.qualified hs
  · have hor : Qualified scope (codes " OR ") := .of_known (by decide)
    refine (hor.intercalate rfl rfl fun ls hls => ?_).paren
    obtain ⟨p, hp, rfl⟩ := List.mem_map.mp hls
    rcases List.mem_cons.mp hp with rfl | hp
    · exact hfirst.qualified hs
    · exact (hothers p hp).qualified hs

end Predicate

end ObservationQuery
