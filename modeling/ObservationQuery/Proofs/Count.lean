import ObservationQuery.Proofs.Sql.Calls
import ObservationQuery.Proofs.Sql.Parts
import ObservationQuery.Proofs.Sql.Rows

/-!
# Rows and their number

A query is written in two forms, one that returns its rows and one that counts them. Both read the
same tables, joined and constrained in the same way.

* `Query.unlimited` — a query without its limit.
* `Query.FormsAgree` — the counting form counts what the other returns without its limit.
* `Call.isLimit`, `Call.isPresentation` — calls that set the limit, and calls that say how rows are
  returned, but not which.

Principal result: `forms_agree` — the forms of every query agree; the counting form does not depend
on the limit and, where there are no distinct expressions, depends neither on the selected
expressions nor on the order.
-/

namespace ObservationQuery

namespace Query

variable (q : Query)

/-- The query without its limit. -/
def unlimited : Query := { q with limit := none }

/-! ## The two forms -/

/-- The counting form of a query reads what the form that returns its rows reads: without distinct
expressions it has the same tables and conditions, and with them it counts what the other form
returns without its limit. -/
structure FormsAgree (q : Query) : Prop where
  rows : q.text = "SELECT " ++ q.selectText ++ " " ++ q.fromText ++ q.orderText ++ q.limitText
  countAll : q.distinct = [] → q.countText = "SELECT COUNT(*) " ++ q.fromText
  countDistinct : q.distinct ≠ [] →
    q.countText = "SELECT COUNT(*) FROM (" ++ q.unlimited.text ++ ") AS counted"

theorem formsAgree : q.FormsAgree where
  rows := q.text_eq_parts
  countAll h := by
    rw [countText, countTokens, if_pos h, TokenStream.text_append, text_sourceTokens]
    rfl
  countDistinct h := by
    rw [countText, countTokens, if_neg h, TokenStream.text_append, TokenStream.text_append,
      TokenStream.text_append]
    rfl

/-! ## What the counting form depends on -/

/-- The query without its limit, its order and its selected expressions. -/
def sourceOnly : Query := { q with select := [], orderBy := [], limit := none }

theorem countText_unlimited : q.unlimited.countText = q.countText := rfl

theorem countText_sourceOnly {q : Query} (h : q.distinct = []) :
    q.sourceOnly.countText = q.countText := by
  have hsame : q.sourceOnly.distinct = [] := h
  rw [countText, countText, countTokens, countTokens, if_pos h, if_pos hsame]
  rfl

namespace Call

/-- Whether a call sets the limit. -/
def isLimit : Call → Bool
  | limit _ => true
  | _ => false

/-- Whether a call selects an expression, adds an order key or sets the limit. -/
def isPresentation : Call → Bool
  | add (.orderBy _) => true
  | select _ => true
  | limit _ => true
  | _ => false

variable {calls others : List Call}

/-- Calls of which a part is the same have the same of what the other part has none of. -/
theorem flatMap_congr_filter {α : Type} {left : Call → Bool} {f : Call → List α}
    (hleft : ∀ c, left c = true → f c = [])
    (h : others.filter (!left ·) = calls.filter (!left ·)) :
    others.flatMap f = calls.flatMap f := by
  have hkept : ∀ l : List Call, l.flatMap f = (l.filter (!left ·)).flatMap f := by
    intro l
    induction l with
    | nil => rfl
    | cons c l ih =>
      cases hc : left c with
      | true =>
        rw [List.filter_cons_of_neg (by simp [hc]), List.flatMap_cons, hleft c hc, ih]
        rfl
      | false =>
        rw [List.filter_cons_of_pos (by simp [hc]), List.flatMap_cons, ih, List.flatMap_cons]
  rw [hkept, h, ← hkept]

/-- Calls for presentation have clauses of no kind but order keys. -/
theorem flatMap_clauses_congr (root : String) {α : Type} {f : Clause → List α}
    (hf : ∀ key, f (.orderBy key) = [])
    (h : others.filter (!isPresentation ·) = calls.filter (!isPresentation ·)) :
    (others.flatMap (clauses root)).flatMap f = (calls.flatMap (clauses root)).flatMap f := by
  rw [List.flatMap_assoc, List.flatMap_assoc]
  refine flatMap_congr_filter (fun c hc => ?_) h
  cases c with
  | add clause =>
    cases clause with
    | orderBy key => rw [clauses, List.flatMap_singleton, hf]
    | join | condition | distinct => cases hc
  | select | limit => rfl
  | compile => cases hc

end Call

section
variable {table : String} {calls others : List Call}

theorem unlimited_build (h : others.filter (!Call.isLimit ·) = calls.filter (!Call.isLimit ·)) :
    (build table others).unlimited = (build table calls).unlimited := by
  have hclauses : others.flatMap (Call.clauses table) = calls.flatMap (Call.clauses table) := by
    refine Call.flatMap_congr_filter (fun c hc => ?_) h
    cases c with
    | limit => rfl
    | add | select | compile => cases hc
  have hexprs : others.flatMap Call.exprs = calls.flatMap Call.exprs := by
    refine Call.flatMap_congr_filter (fun c hc => ?_) h
    cases c with
    | limit => rfl
    | add | select | compile => cases hc
  have hunlimited : ∀ calls : List Call, (build table calls).unlimited =
      ((ofTable table).addAll (calls.flatMap (Call.clauses table))).present
        ((calls.flatMap Call.exprs).foldl (appendNew Expr.text) []) none := by
    intro calls
    rw [build, callAll_eq]
    rfl
  rw [hunlimited, hunlimited, hclauses, hexprs]

theorem sourceOnly_build
    (h : others.filter (!Call.isPresentation ·) = calls.filter (!Call.isPresentation ·)) :
    (build table others).sourceOnly = (build table calls).sourceOnly := by
  have hjoins := Call.flatMap_clauses_congr table (f := Clause.joins) (fun _ => rfl) h
  have hconditions := Call.flatMap_clauses_congr table (f := Clause.conditions) (fun _ => rfl) h
  have hdistincts := Call.flatMap_clauses_congr table (f := Clause.distincts) (fun _ => rfl) h
  have hfields : ∀ calls : List Call, (build table calls).sourceOnly =
      { table
        joins := ((calls.flatMap (Call.clauses table)).flatMap Clause.joins).foldl
          (appendNew Join.table) []
        conditions := ((calls.flatMap (Call.clauses table)).flatMap Clause.conditions).foldl
          (appendNew Condition.text) []
        distinct := ((calls.flatMap (Call.clauses table)).flatMap Clause.distincts).foldl
          (appendNew Expr.text) [] } := by
    intro calls
    rw [build, callAll_eq]
    simp only [sourceOnly, present, table_addAll, joins_addAll, conditions_addAll, distinct_addAll]
    rfl
  rw [hfields, hfields, hjoins, hconditions, hdistincts]

end

/-! ## Rows -/

/-- In a database, the rows that a query returns are the first of those that its counting form
counts, which are some of the matches of its tables of which its conditions are true; without
distinct expressions, all of them. -/
structure CountsRows {Row Value : Type} [DecidableEq Value] (db : Database Row Value) (q : Query) :
    Prop where
  rows : q.answers db = atMost q.limit (q.unlimited.answers db)
  number : q.count db = (q.unlimited.answers db).length
  kept : (q.unlimited.answers db).Subperm (q.kept db)
  all : q.distinct = [] → (q.unlimited.answers db).Perm (q.kept db)

theorem countsRows {Row Value : Type} [DecidableEq Value] (db : Database Row Value) (q : Query) :
    q.CountsRows db := by
  have hanswers : q.unlimited.answers db =
      db.oneForEach q.distinct (db.order q.orderBy (q.kept db)) := by
    rw [answers_eq]
    rfl
  constructor
  · rw [hanswers, answers_eq]
  · rw [hanswers, count]
  · exact answers_subperm (q := q.unlimited)
  · intro h
    rw [hanswers, Database.oneForEach, if_pos h]
    exact db.order_perm _ _

end Query

/-- **Whatever the calls by which a query is reached, its two forms read the same tables and
conditions and agree on the rows. Calls that set the limit do not change the counting form, and
neither do calls that select or order where there are no distinct expressions. Compiled queries are
among these queries.** -/
theorem forms_agree (table : String) (calls : List Query.Call) :
    let q := Query.build table calls
    q.FormsAgree ∧
    (∀ others : List Query.Call, others.filter (!·.isLimit) = calls.filter (!·.isLimit) →
      (Query.build table others).countText = q.countText) ∧
    (q.distinct = [] → ∀ others : List Query.Call,
      others.filter (!·.isPresentation) = calls.filter (!·.isPresentation) →
        (Query.build table others).countText = q.countText) ∧
    (∀ (Row Value : Type) [DecidableEq Value] (db : Database Row Value), q.CountsRows db) ∧
    ∀ tables f r, compile tables f = .ok r → ∃ root made, r = Query.build root made := by
  intro q
  refine ⟨q.formsAgree, fun others h => ?_, fun hdistinct others h => ?_,
    fun _ _ _ db => q.countsRows db, fun _ _ _ => Query.exists_calls_of_compile⟩
  · have hunlimited : (Query.build table others).unlimited = q.unlimited := Query.unlimited_build h
    rw [← Query.countText_unlimited, hunlimited, Query.countText_unlimited]
  · have hsource : (Query.build table others).sourceOnly = q.sourceOnly := Query.sourceOnly_build h
    have hother : (Query.build table others).distinct = [] := by
      have hsame : (Query.build table others).sourceOnly.distinct = q.sourceOnly.distinct := by
        rw [hsource]
      exact hsame.trans hdistinct
    rw [← Query.countText_sourceOnly hother, hsource, Query.countText_sourceOnly hdistinct]

/-- With a distinct expression the rows of the query are counted, all of them. -/
example : (Query.build "obs" [.add (.distinct (.column "obs" "id")), .limit 3]).countText =
    "SELECT COUNT(*) FROM (SELECT DISTINCT ON (obs.id) obs.* FROM obs) AS counted" := by
  decide

end ObservationQuery
