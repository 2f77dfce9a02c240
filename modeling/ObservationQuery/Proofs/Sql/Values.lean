import ObservationQuery.Proofs.Sql.Scope
import ObservationQuery.Proofs.Sql.Spelling

/-!
# What the literals of a query hold

* `OwnText` — the literals that do not hold a text of the user: members of documents, and times.
* `Predicate.userTexts`, `Condition.userTexts`, `Query.userTexts` — the texts of the user.
* `Carries` — each of some texts is the value of a literal, and each literal holds one of them or a
  text that is not of the user.

Principal results: `Query.Scoped.carries`, `Query.Scoped.count_carries` — both texts of a query
carry exactly its texts of the user.
-/

namespace ObservationQuery

open Sql

/-! ## Texts -/

/-- The literals that do not hold a text of the user. -/
inductive OwnText : String → Prop
  | member {name : String} (h : name ∈ documentMembers) : OwnText name
  | closed : OwnText "[]"
  | bound (t : Instant) : OwnText (boundText t)
  | interval (first last : Instant) :
    OwnText ("[" ++ boundText first ++ "," ++ boundText last ++ "]")

/-- The texts of the user in a predicate. -/
def Predicate.userTexts : Predicate → List String
  | isText _ value => [value]
  | hasText _ values => values.toList
  | isLike _ pattern => [pattern]
  | matchesRegex _ pattern => [pattern]
  | hasPath _ path => [path]
  | relatesTo _ _ wkt _ => [wkt]
  | fragment _ | equal _ _ | isNull _ | hasId _ _ | liesWithin _ _ _ | periodRelates _ _ _ _ _ => []

mutual

/-- The texts of the user in a condition. -/
def Condition.userTexts : Condition → List String
  | .anyOf first others => (first :: others).flatMap Predicate.userTexts
  | .inQuery _ query => query.userTexts

/-- The texts of the user in some conditions. -/
def Condition.listUserTexts : List Condition → List String
  | [] => []
  | condition :: conditions => condition.userTexts ++ Condition.listUserTexts conditions

/-- The texts of the user in a query. Tables are joined without any. -/
def Query.userTexts : Query → List String
  | ⟨_, _, _, _, conditions, _, _⟩ => Condition.listUserTexts conditions

end

theorem Condition.listUserTexts_eq (cs : List Condition) :
    listUserTexts cs = cs.flatMap userTexts := by
  induction cs with
  | nil => rfl
  | cons c cs ih => rw [listUserTexts, ih, List.flatMap_cons]

theorem Query.userTexts_eq (q : Query) :
    q.userTexts = q.conditions.flatMap Condition.userTexts := by
  obtain ⟨⟩ := q
  rw [userTexts, Condition.listUserTexts_eq]

namespace Sql

/-- Each text is the value of a literal, and each literal holds one of the texts or is no text of
the user. -/
structure Carries (texts : List String) (ls : List Lexeme) : Prop where
  complete : ∀ v ∈ texts, v ∈ values ls
  sound : ∀ v ∈ values ls, OwnText v ∨ v ∈ texts

namespace Carries

variable {s t : List String} {a b ls : List Lexeme}

theorem codes (w : String) : Carries [] (codes w) := ⟨by simp, by simp⟩

theorem literal (v : String) : Carries [v] [.literal v] :=
  ⟨fun _ hw => hw, fun _ hw => .inr hw⟩

theorem own {v : String} (h : OwnText v) : Carries [] [.literal v] :=
  ⟨by simp, fun w hw => .inl (by rwa [List.mem_singleton.mp hw])⟩

theorem append (ha : Carries s a) (hb : Carries t b) : Carries (s ++ t) (a ++ b) := by
  refine ⟨fun v hv => ?_, fun v hv => ?_⟩
  · rw [values_append, List.mem_append]
    exact (List.mem_append.mp hv).imp (ha.complete v) (hb.complete v)
  · rw [values_append] at hv
    rw [List.mem_append]
    rcases List.mem_append.mp hv with hv | hv
    · exact (ha.sound v hv).imp_right .inl
    · exact (hb.sound v hv).imp_right .inr

theorem after (w : String) (h : Carries t b) : Carries t (Sql.codes w ++ b) := (codes w).append h

theorem before (h : Carries s a) (w : String) : Carries s (a ++ Sql.codes w) := by
  simpa using h.append (codes w)

theorem paren (h : Carries t ls) : Carries t (Sql.codes "(" ++ ls ++ Sql.codes ")") :=
  (h.after "(").before ")"

theorem intercalate {α : Type} (w : String) {f : α → List String} {g : α → List Lexeme} :
    ∀ {l : List α}, (∀ x ∈ l, Carries (f x) (g x)) →
      Carries (l.flatMap f) ((Sql.codes w).intercalate (l.map g))
  | [], _ => codes ""
  | [x], h => by simpa using h x (by simp)
  | x :: y :: l, h => by
    have hrest : Carries ((y :: l).flatMap f) ((Sql.codes w).intercalate ((y :: l).map g)) :=
      intercalate w fun z hz => h z (List.mem_cons_of_mem _ hz)
    rw [List.flatMap_cons, List.map_cons, List.map_cons, List.intercalate_cons_cons]
    rw [List.append_assoc]
    exact (h x (by simp)).append (hrest.after w)

/-- Parts without texts of the user. -/
theorem list {α : Type} (w : String) {g : α → List Lexeme} {l : List α}
    (h : ∀ x ∈ l, Carries [] (g x)) : Carries [] ((Sql.codes w).intercalate (l.map g)) := by
  have hlist := intercalate w (f := fun _ => []) h
  rwa [List.flatMap_eq_nil_iff.mpr fun _ _ => rfl] at hlist

end Carries

end Sql

/-! ## Expressions and predicates -/

theorem PathStep.Known.carries : ∀ {s : PathStep}, s.Known → Carries [] s.lexemes
  | .member _, h => .own (.member h)
  | .item _, _ => .codes _

theorem Expr.carries_pathLexemes : ∀ {path : List PathStep}, (∀ s ∈ path, s.Known) →
    Carries [] (pathLexemes path)
  | [], _ => .codes ""
  | [last], h => (h last (by simp)).carries.after _
  | step :: next :: path, h =>
    ((h step (by simp)).carries.after _).append
      (Expr.carries_pathLexemes fun s hs => h s (List.mem_cons_of_mem _ hs))

variable {scope : List String}

theorem Expr.Reads.carries : ∀ {e : Expr}, e.Reads scope → Carries [] e.lexemes
  | .column _ _, _ => .codes _
  | .documentText _ _, h => (Expr.carries_pathLexemes h.2).after _
  | .group e, h => (Expr.Reads.carries (e := e) h).paren
  | .cast e _, h => (Expr.Reads.carries (e := e) h).paren.before _

theorem Expr.carries_keyLexemes : ∀ {key : List Expr}, (∀ e ∈ key, e.Reads scope) →
    Carries [] (keyLexemes key)
  | [], _ => .codes "()"
  | [e], h => (h e (by simp)).carries
  | _ :: _ :: _, h => (Carries.list ", " fun e he => (h e he).carries).paren

namespace Predicate

theorem carries_idsLexemes {e : Expr} (he : Carries [] e.lexemes) (ids : List Int64) :
    Carries [] (idsLexemes e ids) := by
  unfold idsLexemes
  split
  · exact he.append ((Carries.codes _).after _)
  · exact he.append ((Carries.list ", " fun id _ => .codes (idText id)).paren.after _)

theorem Reads.carries {p : Predicate} (h : p.Reads scope) : Carries p.userTexts p.lexemes := by
  obtain ⟨hsql, he⟩ := h
  cases p with
  | fragment sql => exact absurd rfl (hsql sql)
  | equal left right =>
    have hl := (he left (by simp [exprs])).carries
    have hr := (he right (by simp [exprs])).carries
    exact hl.append (hr.after _)
  | isNull e => exact (he e (by simp [exprs])).carries.before _
  | hasId e ids => exact carries_idsLexemes (he e (by simp [exprs])).carries ids.toList
  | isText e value =>
    exact (he e (by simp [exprs])).carries.append ((Carries.literal value).after _)
  | hasText e values =>
    have hlist := Carries.intercalate ", " fun v (_ : v ∈ values.toList) => Carries.literal v
    rw [List.flatMap_singleton'] at hlist
    exact (he e (by simp [exprs])).carries.append (hlist.paren.after _)
  | isLike e pattern =>
    exact (he e (by simp [exprs])).carries.append ((Carries.literal pattern).after _)
  | matchesRegex e pattern =>
    exact (he e (by simp [exprs])).carries.paren.append ((Carries.literal pattern).after _)
  | hasPath document path =>
    have hdocument := (he document (by simp [exprs])).carries
    exact ((hdocument.append ((Carries.literal path).after _)).paren).after _
  | relatesTo geometry relation wkt srid =>
    have hgeometry := (he geometry (by simp [exprs])).carries
    have hsrid := Carries.codes (String.ofList (Text.signed srid.toInt))
    have hwkt := ((Carries.literal wkt).append (hsrid.after ", ")).paren
    exact ((hgeometry.append (hwkt.after _)).paren).after _
  | liesWithin time first last =>
    have htime := (he time (by simp [exprs])).carries
    have hfirst := Carries.own (.bound first)
    have hlast := Carries.own (.bound last)
    have hclosed := Carries.own .closed
    exact ((hfirst.append ((hlast.append (hclosed.after ", ")).after ",")).paren.after _).append
      (htime.after _)
  | periodRelates start stop relation first last =>
    have hstart := (he start (by simp [exprs])).carries.paren.before "::timestamptz"
    have hstop := (he stop (by simp [exprs])).carries.paren.before "::timestamptz"
    have hperiod := ((hstart.append (hstop.after ",")).paren.after "tstzrange")
    have hinterval := (Carries.own (.interval first last)).after (relation.operator ++ " ")
    exact hperiod.append ((hinterval.after " ").before "::tstzrange")

theorem carries_anyLexemes {first : Predicate} {others : List Predicate}
    (hfirst : first.Reads scope) (hothers : ∀ p ∈ others, p.Reads scope) :
    Carries ((first :: others).flatMap userTexts) (anyLexemes first others) := by
  have hall : ∀ p ∈ first :: others, Carries p.userTexts p.lexemes := by
    rw [List.forall_mem_cons]
    exact ⟨hfirst.carries, fun p hp => (hothers p hp).carries⟩
  unfold anyLexemes
  split
  · simpa using hfirst.carries
  · exact (Carries.intercalate " OR " hall).paren

end Predicate

/-! ## Queries -/

theorem Join.Reads.carries {j : Join} (h : j.Reads scope) : Carries [] j.lexemes := by
  have hon := h.on.carries
  obtain ⟨-, left, right, heq, -, -⟩ := h
  have hnone : j.on.userTexts = [] := by rw [heq, Predicate.userTexts]
  rw [hnone] at hon
  exact (((Carries.codes "INNER JOIN ").before j.table).before " ON ").append hon

theorem Join.ListRead.carries : ∀ {joins : List Join} {scope : List String}, ListRead scope joins →
    Carries [] (joins.flatMap fun j => codes " " ++ j.lexemes)
  | [], _, _ => .codes ""
  | j :: joins, _, ⟨hj, hjoins⟩ => by
    rw [List.flatMap_cons]
    exact (hj.carries.after " ").append hjoins.carries

theorem Expr.carries_list {es : List Expr} (h : ∀ e ∈ es, e.Reads scope) :
    Carries [] ((codes ", ").intercalate (es.map lexemes)) :=
  Carries.list ", " fun e he => (h e he).carries

namespace Query.Reading

variable {q : Query}

theorem carries_source (h : q.Reading) {texts : List String}
    (hc : Carries texts ((codes " AND ").intercalate (Condition.lexemeLists q.conditions))) :
    Carries texts (sourceLexemes q.table q.joins (Condition.lexemeLists q.conditions)) := by
  have htable := (Carries.codes "FROM ").before q.table
  refine (htable.append h.joins.carries).append ?_
  split
  · rename_i hnil
    rw [hnil] at hc
    exact hc
  · exact hc.after _

theorem carries_distinct (h : q.Reading) : Carries [] (distinctLexemes q.distinct) := by
  unfold distinctLexemes
  split
  · exact .codes ""
  · exact ((Expr.carries_list h.distinct).paren.after _).before _

theorem carries_selected (h : q.Reading) : Carries [] (selectedLexemes q.table q.select) := by
  unfold selectedLexemes
  split
  · exact (Carries.codes _).before _
  · exact Expr.carries_list h.select

theorem carries_ordered (h : q.Reading) : Carries [] (orderedLexemes q.orderBy) := by
  unfold orderedLexemes
  split
  · exact .codes ""
  · have hkeys := Carries.list ", " fun key hkey => ((h.orderBy key hkey).carries.before
      (OrderKey.directionText key.direction))
    exact hkeys.after _

theorem carries_limited : ∀ limit, Carries [] (limitedLexemes limit)
  | none => .codes ""
  | some _ => (Carries.codes _).before _

theorem carries (h : q.Reading)
    (hc : Carries (Condition.listUserTexts q.conditions)
      ((codes " AND ").intercalate (Condition.lexemeLists q.conditions))) :
    Carries q.userTexts q.lexemes := by
  obtain ⟨table, select, distinct, joins, conditions, orderBy, limit⟩ := q
  have hselected := (((Carries.codes "SELECT ").append h.carries_distinct).append
    h.carries_selected).before " "
  have hrest := ((hselected.append (h.carries_source hc)).append h.carries_ordered).append
    (carries_limited limit)
  rw [Query.lexemes, Query.userTexts]
  simpa using hrest

end Query.Reading

mutual

theorem Condition.Reads.carries {scope : List String} : ∀ {c : Condition}, c.Reads scope →
    Carries c.userTexts c.lexemes
  | .anyOf first others, h => by
    rw [Condition.Reads] at h
    rw [Condition.lexemes, Condition.userTexts]
    exact Predicate.carries_anyLexemes h.1 h.2
  | .inQuery key query, h => by
    rw [Condition.Reads] at h
    rw [Condition.lexemes, Condition.userTexts]
    exact (Expr.carries_keyLexemes h.1).append ((Query.Scoped.carries h.2.2).paren.after _)

theorem Condition.ListRead.carries {scope : List String} : ∀ {cs : List Condition},
    Condition.ListRead scope cs →
      Carries (Condition.listUserTexts cs) ((codes " AND ").intercalate (Condition.lexemeLists cs))
  | [], _ => .codes ""
  | [c], h => by
    rw [Condition.ListRead] at h
    simpa [Condition.listUserTexts, Condition.lexemeLists] using Condition.Reads.carries h.1
  | c :: d :: cs, h => by
    rw [Condition.ListRead] at h
    have hrest := Condition.ListRead.carries h.2
    rw [Condition.listUserTexts, Condition.lexemeLists, Condition.lexemeLists,
      List.intercalate_cons_cons, List.append_assoc, ← Condition.lexemeLists]
    exact (Condition.Reads.carries h.1).append (hrest.after _)

/-- **The query that returns the rows carries exactly its texts of the user.** -/
theorem Query.Scoped.carries : ∀ {q : Query}, q.Scoped → Carries q.userTexts q.lexemes
  | ⟨table, select, distinct, joins, conditions, orderBy, limit⟩, h => by
    have hread := (Query.scoped_iff _).mp h
    rw [Query.Scoped] at h
    exact hread.carries (Condition.ListRead.carries h.2.2.2.2.1)

end

/-- **The query that counts the rows carries the same texts.** -/
theorem Query.Scoped.count_carries {q : Query} (h : q.Scoped) :
    Carries q.userTexts q.countLexemes := by
  have hread := (Query.scoped_iff q).mp h
  have hc := Condition.ListRead.carries (Condition.listRead_iff.mpr hread.conditions)
  have hcount := ((Carries.codes "SELECT COUNT").append (Carries.codes "*").paren).before " "
  refine hcount.append ?_
  split
  · have hsource := hread.carries_source hc
    obtain ⟨⟩ := q
    exact hsource
  · have hrows := hread.unlimited.carries hc
    obtain ⟨⟩ := q
    exact ((hrows.paren).after "FROM ").before " AS counted"

end ObservationQuery
