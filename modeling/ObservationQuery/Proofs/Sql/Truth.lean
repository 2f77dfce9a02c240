import ObservationQuery.Condition.Identity
import ObservationQuery.Proofs.Sql.Range

/-!
# Reading conditions on the columns of a row

A condition on a number is read back and tested on a row. The test of a null is unknown, unless it
asks for null.

* `Truth` — the outcome of a test; `Truth.any` — that of alternatives.
* `readColumn` — the value of a column, given those of a row.
* `readTest` — the outcome of one test: that a value is null, a number, or one of some numbers.
* `readCondition` — the outcome of a condition: one test, alternatives in parentheses, or a range
  that contains the value.
* `Predicate.outcome` — the outcome of a test, as the predicate has it.

Principal results: `readTest_text` — what is written for a test has its outcome;
`readCondition_anyOf?`, `readCondition_liesWithin` — so have alternatives and conditions on times.
-/

namespace ObservationQuery

open Text

namespace Sql

/-! ## Outcomes -/

/-- The outcome of a test; `none` where it is unknown. -/
abbrev Truth := Option Bool

namespace Truth

/-- The outcome of two alternatives: true if one is true, even if the other is unknown. -/
def or : Truth → Truth → Truth
  | some true, _ => some true
  | _, some true => some true
  | some false, some false => some false
  | _, _ => none

/-- The outcome of alternatives. -/
def any (ts : List Truth) : Truth := ts.foldr or (some false)

theorem or_eq_true {t u : Truth} : t.or u = some true ↔ t = some true ∨ u = some true := by
  rcases t with _ | _ | _ <;> rcases u with _ | _ | _ <;> decide

@[simp] theorem any_singleton (t : Truth) : any [t] = t := by
  rcases t with _ | _ | _ <;> rfl

/-- Alternatives are true where one of them is. -/
theorem any_eq_true {ts : List Truth} : any ts = some true ↔ some true ∈ ts := by
  induction ts with
  | nil => simp [any]
  | cons t ts ih =>
    rw [any, List.foldr_cons, or_eq_true, List.mem_cons, ← any, ih, eq_comm]

end Truth

/-- The outcome of the test that a value is a number. -/
def equals (value : Option Int) (n : Int) : Truth := value.map (· == n)

/-- The outcome of the test that a value is one of some numbers. -/
def isAny (value : Option Int) (ns : List Int) : Truth := .any (ns.map (equals value))

theorem isAny_eq_true {value : Option Int} {ns : List Int} :
    isAny value ns = some true ↔ ∃ n ∈ ns, value = some n := by
  rw [isAny, Truth.any_eq_true, List.mem_map]
  refine exists_congr fun n => and_congr_right fun _ => ?_
  cases value <;> simp [equals]

/-! ## Columns -/

/-- The value of a column of a table, given those of the columns of a row. -/
def readColumn (table : String) (columns : List (String × Option Int)) : Reader (Option Int) :=
  fun cs => columns.findSome? fun column =>
    (after? (table ++ "." ++ column.1) cs).map fun rest => (column.2, rest)

/-- No column has a name that the name of another begins with. -/
def PrefixFree (columns : List (String × Option Int)) : Prop :=
  columns.Pairwise fun a b => ¬ a.1.toList <+: b.1.toList ∧ ¬ b.1.toList <+: a.1.toList

theorem after?_column {table a b : String} {rest : List Char}
    (h : ¬ a.toList <+: b.toList ∧ ¬ b.toList <+: a.toList) :
    after? (table ++ "." ++ a) ((table ++ "." ++ b).toList ++ rest) = none := by
  refine after?_eq_none fun hprefix => ?_
  rw [String.toList_append, String.toList_append (s := table ++ "."), List.append_assoc,
    List.prefix_append_right_inj] at hprefix
  rcases List.prefix_or_prefix_of_prefix hprefix (List.prefix_append b.toList rest) with hab | hba
  · exact h.1 hab
  · exact h.2 hba

/-- A column has the value of the row. -/
theorem readColumn_text {table name : String} {columns : List (String × Option Int)}
    {value : Option Int} (hfree : PrefixFree columns) (h : (name, value) ∈ columns)
    (rest : List Char) :
    readColumn table columns ((Expr.column table name).text.toList ++ rest) =
      some (value, rest) := by
  rw [show (Expr.column table name).text = table ++ "." ++ name from rfl]
  induction columns with
  | nil => cases h
  | cons column others ih =>
    obtain ⟨hcolumn, hothers⟩ := List.pairwise_cons.mp hfree
    rw [readColumn, List.findSome?_cons]
    rcases List.mem_cons.mp h with rfl | h
    · rw [after?_append]
      rfl
    · rw [after?_column (hcolumn _ h), Option.map_none]
      exact ih hothers h

/-- A text that is led by something without a point is no column. -/
theorem readColumn_led (table : String) (columns : List (String × Option Int)) (name : String)
    {front : List Char} (hne : front ≠ []) (hdot : '.' ∉ front) (rest : List Char) :
    readColumn table columns (front ++ ((Expr.column table name).text.toList ++ rest)) = none := by
  rw [readColumn, List.findSome?_eq_none_iff]
  intro column _
  have hnone : after? (table ++ "." ++ column.1)
      (front ++ (table ++ "." ++ (name ++ String.ofList rest)).toList) = none :=
    after?_eq_none_of_dot hne hdot
  have htext : (Expr.column table name).text.toList ++ rest =
      (table ++ "." ++ (name ++ String.ofList rest)).toList := by
    simp [Expr.text]
  rw [htext, hnone, Option.map_none]

/-! ## Tests -/

/-- The outcome of the test of a value that `column` reads. -/
def readTest (column : Reader (Option Int)) : Reader Truth := fun cs => do
  let (value, cs) ← column cs
  match after? " IS NULL" cs, after? " = " cs, after? " IN (" cs with
  | some cs, _, _ => some (some value.isNone, cs)
  | none, some cs, _ => (readInteger cs).map fun (n, cs) => (equals value n, cs)
  | none, none, some cs => do
    let (ns, cs) ← readSeparated readInteger ", " cs.length cs
    (after? ")" cs).map fun cs => (isAny value ns, cs)
  | none, none, none => none

end Sql

open Sql

/-- The outcome of the test of a value; unknown for predicates that do not test identifiers. -/
def Predicate.outcome (value : Option Int) : Predicate → Truth
  | isNull _ => some value.isNone
  | hasId _ ids => isAny value (ids.toList.map Int64.toInt)
  | _ => none

/-- A test of the value of an expression: that it is null, or one of some identifiers. -/
def Predicate.Tests (e : Expr) (p : Predicate) : Prop :=
  p = .isNull e ∨ ∃ ids : IdSet, ids.toList ≠ [] ∧ p = .hasId e ids

namespace Sql

theorem toList_idText (id : Int64) : (idText id).toList = signed id.toInt := String.toList_ofList

section
variable {e : Expr} {value : Option Int} {column : Reader (Option Int)}
  (hcolumn : ∀ rest, column (e.text.toList ++ rest) = some (value, rest))
include hcolumn

theorem readTest_isNull (rest : List Char) :
    readTest column ((Predicate.isNull e).text.toList ++ rest) =
      some ((Predicate.isNull e).outcome value, rest) := by
  have htext : (Predicate.isNull e).text.toList ++ rest =
      e.text.toList ++ (" IS NULL".toList ++ rest) := by
    unfold Predicate.text
    rw [String.toList_append, List.append_assoc]
  rw [htext, readTest, hcolumn]
  simp only [bind, Option.bind_some, after?_append, Predicate.outcome]

theorem readTest_equal {id : Int64} {rest : List Char} (h : Stops rest) :
    readTest column ((Predicate.idsText e [id]).toList ++ rest) =
      some (isAny value [id.toInt], rest) := by
  have htext : (Predicate.idsText e [id]).toList ++ rest =
      e.text.toList ++ (" = ".toList ++ (signed id.toInt ++ rest)) := by
    rw [Predicate.idsText, String.toList_append, String.toList_append, List.append_assoc,
      List.append_assoc, toList_idText]
  have hno : after? " IS NULL" (" = ".toList ++ (signed id.toInt ++ rest)) = none :=
    after?_eq_none (by simp)
  rw [htext, readTest, hcolumn]
  simp only [bind, Option.bind_some, hno, after?_append, readInteger_signed _ h, Option.map_some,
    isAny, List.map_cons, List.map_nil, Truth.any_singleton]

theorem readTest_isIn {first second : Int64} {others : List Int64} (rest : List Char) :
    readTest column ((Predicate.idsText e (first :: second :: others)).toList ++ rest) =
      some (isAny value ((first :: second :: others).map Int64.toInt), rest) := by
  generalize hids : first :: second :: others = ids
  let numerals : List Char :=
    ", ".toList.intercalate (ids.map fun id => signed id.toInt) ++ (")".toList ++ rest)
  have htext : (Predicate.idsText e ids).toList ++ rest =
      e.text.toList ++ (" IN (".toList ++ numerals) := by
    subst hids
    rw [Predicate.idsText]
    · simp [numerals, String.toList_intercalate, toList_idText, Function.comp_def]
    · simp
  have hread : readSeparated readInteger ", " numerals.length numerals =
      some (ids.map Int64.toInt, ")".toList ++ rest) := by
    refine readSeparated_text rfl (after?_eq_none (by simp)) (by simp [← hids])
      (fun id _ => signed_ne_nil id.toInt) fun id _ more hmore => ?_
    refine readInteger_signed _ ?_
    rcases hmore with ⟨more, rfl⟩ | rfl
    · exact stops_mark (by decide) more
    · exact stops_mark (by decide) rest
  have hnull : after? " IS NULL" (" IN (".toList ++ numerals) = none := after?_eq_none (by simp)
  have hequal : after? " = " (" IN (".toList ++ numerals) = none := after?_eq_none (by simp)
  rw [htext, readTest, hcolumn]
  simp only [bind, Option.bind_some, hnull, hequal, after?_append, hread, Option.map_some]

/-- **What is written for a test has its outcome.** -/
theorem readTest_text {p : Predicate} (hp : p.Tests e) {rest : List Char} (h : Stops rest) :
    readTest column (p.text.toList ++ rest) = some (p.outcome value, rest) := by
  obtain rfl | ⟨ids, hne, rfl⟩ := hp
  · exact readTest_isNull hcolumn rest
  · rw [show (Predicate.hasId e ids).text = Predicate.idsText e ids.toList from rfl,
      Predicate.outcome]
    match hids : ids.toList with
    | [] => exact absurd hids hne
    | [id] => exact readTest_equal hcolumn h
    | first :: second :: others => exact readTest_isIn hcolumn rest

end

/-! ## Conditions -/

/-- The outcome of a condition on a value that `column` reads. -/
def readCondition (column : Reader (Option Int)) (text : String) : Option Truth :=
  match readTest column text.toList, readRange readBound readBound text.toList with
  | some (outcome, cs), _ => if cs.isEmpty then some outcome else none
  | none, some (range, cs) => do
    let cs ← after? " @> " cs
    let (value, cs) ← column cs
    if cs.isEmpty then some (value.map fun second => decide (range.Contains second)) else none
  | none, none => do
    let cs ← after? "(" text.toList
    let (outcomes, cs) ← readSeparated (readTest column) " OR " cs.length cs
    let cs ← after? ")" cs
    if cs.isEmpty then some (.any outcomes) else none

section
variable {e : Expr} {value : Option Int} {column : Reader (Option Int)}

/-- The text of a test begins with the expression and goes on. -/
theorem exists_text_of_tests {p : Predicate} (hp : p.Tests e) :
    ∃ rest, rest ≠ [] ∧ p.text.toList = e.text.toList ++ rest := by
  obtain rfl | ⟨ids, -, rfl⟩ := hp
  · exact ⟨_, by decide, String.toList_append⟩
  · rw [show (Predicate.hasId e ids).text = Predicate.idsText e ids.toList from rfl]
    unfold Predicate.idsText
    split
    · rename_i id _
      refine ⟨(" = " ++ idText id).toList, by simp, ?_⟩
      rw [String.append_assoc, String.toList_append]
    · refine ⟨(" IN (" ++ (", ".intercalate (ids.toList.map idText) ++ ")")).toList, by simp, ?_⟩
      rw [String.append_assoc, String.append_assoc, String.toList_append]

/-- The alternatives that follow the opening parenthesis. -/
def alternatives (ps : List Predicate) : List Char :=
  " OR ".toList.intercalate (ps.map fun p => p.text.toList) ++ ")".toList

theorem toList_text_anyOf (p q : Predicate) (others : List Predicate) :
    (Condition.anyOf p (q :: others)).text.toList =
      "(".toList ++ alternatives (p :: q :: others) := by
  have hdef : (Condition.anyOf p (q :: others)).text =
      "(" ++ " OR ".intercalate ((p :: q :: others).map Predicate.text) ++ ")" := rfl
  rw [hdef]
  simp [alternatives, String.toList_intercalate, Function.comp_def]

/-- Alternatives begin with the expression that the first of them tests. -/
theorem exists_alternatives {p q : Predicate} (hp : p.Tests e) (others : List Predicate) :
    ∃ rest, alternatives (p :: q :: others) = e.text.toList ++ rest := by
  obtain ⟨tail, -, htail⟩ := exists_text_of_tests hp
  refine ⟨tail ++ (" OR ".toList ++ alternatives (q :: others)), ?_⟩
  simp only [alternatives, List.map_cons, List.intercalate_cons_cons, htail, List.append_assoc]

variable (hcolumn : ∀ rest, column (e.text.toList ++ rest) = some (value, rest))
include hcolumn

theorem readCondition_of {p : Predicate} (hp : p.Tests e) :
    readCondition column p.text = some (p.outcome value) := by
  have hread := readTest_text hcolumn hp stops_nil
  rw [List.append_nil] at hread
  rw [readCondition, hread]
  rfl

/-- Each alternative is read with its outcome, up to the closing parenthesis. -/
theorem readSeparated_alternatives {ps : List Predicate} (hne : ps ≠ [])
    (hps : ∀ p ∈ ps, p.Tests e) :
    readSeparated (readTest column) " OR " (alternatives ps).length (alternatives ps) =
      some (ps.map (Predicate.outcome value), ")".toList) := by
  refine readSeparated_text rfl (after?_eq_none (by simp)) hne (fun p hp => ?_)
    fun p hp more hmore => readTest_text hcolumn (hps p hp) ?_
  · obtain ⟨tail, hne, heq⟩ := exists_text_of_tests (hps p hp)
    rw [heq]
    exact List.append_ne_nil_of_right_ne_nil _ hne
  · rcases hmore with ⟨more, rfl⟩ | rfl
    · exact stops_mark (by decide) more
    · exact stops_cons (by decide)

variable (hled : ∀ {front : List Char}, front ≠ [] → '.' ∉ front → ∀ rest,
  column (front ++ (e.text.toList ++ rest)) = none)
include hled

/-- **Alternatives of tests have the outcome of the alternatives.** -/
theorem readCondition_anyOf? {ps : List Predicate} (hps : ∀ p ∈ ps, p.Tests e) :
    ∀ c ∈ Condition.anyOf? ps,
      readCondition column c.text = some (.any (ps.map (Predicate.outcome value))) := by
  intro c hc
  match ps with
  | [] => cases hc
  | [p] =>
    cases hc
    rw [List.map_singleton, Truth.any_singleton]
    exact readCondition_of hcolumn (hps p (List.mem_singleton_self p))
  | p :: q :: others =>
    cases hc
    have hread := readSeparated_alternatives hcolumn (List.cons_ne_nil p (q :: others)) hps
    -- A test is tried first, but no column begins with the parenthesis.
    have htest : readTest column ("(".toList ++ alternatives (p :: q :: others)) = none := by
      obtain ⟨rest, hrest⟩ := exists_alternatives (q := q) (hps p List.mem_cons_self) others
      rw [hrest, readTest, hled (by decide) (by decide)]
      rfl
    have hrange : readRange readBound readBound
        ("(".toList ++ alternatives (p :: q :: others)) = none := by
      have hno : after? "tstzrange(" ("(".toList ++ alternatives (p :: q :: others)) = none :=
        after?_eq_none (by simp)
      rw [readRange, hno]
      rfl
    rw [readCondition, toList_text_anyOf, htest, hrange]
    dsimp only
    rw [after?_append]
    simp only [bind, Option.bind_some, hread, after?_self]
    rfl

/-- **A condition on a time tells whether it lies between the seconds of two instants.** -/
theorem readCondition_liesWithin {first last : Instant} (hfirst : first.nanos < 1000000000)
    (hlast : last.nanos < 1000000000) :
    readCondition column (Condition.of (.liesWithin e first last)).text =
      some (value.map fun second =>
        decide ((⟨.ofInstant first, .ofInstant last, true, true⟩ : Range).Contains second)) := by
  let front : List Char := "tstzrange(".toList ++ ((quote (boundText first)).toList ++
    (",".toList ++ ((quote (boundText last)).toList ++ (", '[]')".toList ++ " @> ".toList))))
  have htext : (Condition.of (.liesWithin e first last)).text.toList =
      front ++ (e.text.toList ++ []) := by
    rw [show (Condition.of (.liesWithin e first last)).text =
      (Predicate.liesWithin e first last).text from rfl]
    have hend : ", '[]') @> ".toList = ", '[]')".toList ++ " @> ".toList := by decide
    unfold Predicate.text
    simp only [front, String.toList_append, List.append_assoc, hend, List.append_nil]
  -- The first point of the text is that of the column: what leads it is read as no column.
  have hdot : '.' ∉ front := by
    simp only [front, List.mem_append, not_or]
    exact ⟨by decide, notMem_quote_boundText first, by decide, notMem_quote_boundText last,
      by decide, by decide⟩
  have htest : readTest column (front ++ (e.text.toList ++ [])) = none := by
    rw [readTest, hled (by simp [front]) hdot]
    rfl
  have hrange : readRange readBound readBound (front ++ (e.text.toList ++ [])) =
      some (⟨.ofInstant first, .ofInstant last, true, true⟩,
        " @> ".toList ++ (e.text.toList ++ [])) := by
    simp only [front, List.append_assoc]
    exact readRange_closed (readBound_quote hfirst) (readBound_quote hlast) _
  rw [readCondition, htext, htest, hrange]
  dsimp only
  rw [after?_append]
  simp only [bind, Option.bind_some, hcolumn]
  rfl

end

end Sql

end ObservationQuery
