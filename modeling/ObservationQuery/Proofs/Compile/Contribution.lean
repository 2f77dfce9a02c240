import Mathlib.Data.List.Defs
import Mathlib.Data.List.Basic
import ObservationQuery.Compile.Contribution
import ObservationQuery.Proofs.Sql.Scope
import ObservationQuery.Proofs.Sql.Values

/-!
# Reasoning about contributions

* `Contribution.Succeeds` — no criterion failed.
* `Contribution.Reads` — the clauses read the tables in a scope and those joined before.
* `Contribution.Brings` — the joins and the texts of the user, unless a criterion failed.

Principal results: each way to build a contribution has one lemma per notion, as
`succeeds_append`, `Reads.append` and `Brings.append`.
-/

namespace ObservationQuery

/-- The texts of the user in a clause. -/
def Clause.userTexts : Clause → List String
  | .condition c => c.userTexts
  | _ => []

namespace Contribution

variable {a b c : Contribution} {l : List Contribution} {α : Type}

/-! ## Success -/

/-- No criterion failed. -/
def Succeeds (c : Contribution) : Prop := c.error = none

@[simp] theorem succeeds_empty : Succeeds {} := rfl

@[simp] theorem succeeds_clause (c : Clause) : (clause c).Succeeds := rfl

@[simp] theorem succeeds_condition (c : Condition) : (condition c).Succeeds := rfl

@[simp] theorem succeeds_condition? (c : Option Condition) : (condition? c).Succeeds := by
  cases c <;> rfl

@[simp] theorem not_succeeds_fail (e : CompileError) : ¬ (fail e).Succeeds := by
  simp [Succeeds, fail]

@[simp] theorem succeeds_append : (a ++ b).Succeeds ↔ a.Succeeds ∧ b.Succeeds := by
  unfold Succeeds
  rw [append_def]
  cases h : a.error with
  | none => simp
  | some e => simp [h]

theorem clauses_append (h : a.Succeeds) : (a ++ b).clauses = a.clauses ++ b.clauses := by
  rw [append_def, show a.error = none from h]

@[simp] theorem succeeds_all : (all l).Succeeds ↔ ∀ c ∈ l, c.Succeeds := by
  induction l with
  | nil => simp
  | cons a l ih => rw [all_cons, succeeds_append, ih, List.forall_mem_cons]

@[simp] theorem succeeds_ofOption {f : α → Contribution} {o : Option α} :
    (ofOption f o).Succeeds ↔ ∀ a ∈ o, (f a).Succeeds := by
  cases o <;> simp [ofOption]

@[simp] theorem succeeds_unsupported {e : Entity} {field : String} {o : Option α} :
    (unsupported e field o).Succeeds ↔ o = none := by
  cases o <;> simp [unsupported, ofOption]

@[simp] theorem succeeds_ofExcept {f : α → Contribution} {x : Except CompileError α} :
    (ofExcept f x).Succeeds ↔ ∃ a, x = .ok a ∧ (f a).Succeeds := by
  cases x <;> simp [ofExcept]

/-! ## What the clauses read -/

/-- The clauses read the tables in `scope` and those joined before. -/
def Reads (scope : List String) (c : Contribution) : Prop := Clause.ListRead scope c.clauses

namespace Reads

variable {scope scope' : List String}

theorem empty : Reads scope {} := trivial

theorem fail (e : CompileError) : Reads scope (fail e) := trivial

theorem condition {c : Condition} (h : c.Reads scope) : Reads scope (condition c) := ⟨h, trivial⟩

theorem condition? {c : Option Condition} (h : ∀ d ∈ c, d.Reads scope) :
    Reads scope (condition? c) := by
  cases c with
  | none => trivial
  | some c => exact condition (h c rfl)

theorem append (ha : a.Reads scope) (hb : b.Reads scope) : (a ++ b).Reads scope := by
  rw [append_def]
  split
  · exact Clause.ListRead.append ha hb
  · exact ha

theorem all (h : l.Forall (Reads scope)) : (all l).Reads scope := by
  induction l with
  | nil => trivial
  | cons a l ih =>
    rw [List.forall_cons] at h
    exact append h.1 (ih h.2)

theorem ofOption {f : α → Contribution} {o : Option α} (h : ∀ a ∈ o, (f a).Reads scope) :
    (ofOption f o).Reads scope := by
  cases o with
  | none => trivial
  | some a => exact h a rfl

theorem unsupported (e : Entity) (field : String) (o : Option α) :
    (unsupported e field o).Reads scope := ofOption fun _ _ => fail _

theorem ofExcept {f : α → Contribution} {x : Except CompileError α}
    (h : ∀ a, x = .ok a → (f a).Reads scope) : (ofExcept f x).Reads scope := by
  cases x with
  | ok a => exact h a rfl
  | error e => trivial

/-- What follows a join may read the joined table. -/
theorem join {j : Join} (hj : j.Reads scope) (hc : c.Reads (j.table :: scope)) :
    (clause (.join j) ++ c).Reads scope := ⟨hj, hc⟩

end Reads

/-! ## What the clauses bring -/

/-- Unless a criterion failed, the clauses join `joins` and hold the texts of the user `texts`. -/
structure Brings (joins : List Join) (texts : List String) (c : Contribution) : Prop where
  joins : c.Succeeds → c.clauses.flatMap Clause.joins = joins
  texts : c.Succeeds → c.clauses.flatMap Clause.userTexts = texts

namespace Brings

variable {js ks : List Join} {ts us : List String}

theorem empty : Brings [] [] {} := ⟨fun _ => rfl, fun _ => rfl⟩

theorem fail (e : CompileError) : Brings js ts (fail e) :=
  ⟨fun h => absurd h (not_succeeds_fail e), fun h => absurd h (not_succeeds_fail e)⟩

theorem condition {c : Condition} (h : c.userTexts = ts) : Brings [] ts (condition c) :=
  ⟨fun _ => rfl, fun _ => (List.flatMap_singleton Clause.userTexts _).trans h⟩

theorem condition? {c : Option Condition} (h : c.toList.flatMap Condition.userTexts = ts) :
    Brings [] ts (condition? c) := by
  subst h
  cases c with
  | none => exact empty
  | some c =>
    rw [Option.toList_some, List.flatMap_singleton]
    exact condition rfl

theorem append (ha : a.Brings js ts) (hb : b.Brings ks us) :
    (a ++ b).Brings (js ++ ks) (ts ++ us) := by
  refine ⟨fun h => ?_, fun h => ?_⟩
  · obtain ⟨hsa, hsb⟩ := succeeds_append.mp h
    rw [clauses_append hsa, List.flatMap_append, ha.joins hsa, hb.joins hsb]
  · obtain ⟨hsa, hsb⟩ := succeeds_append.mp h
    rw [clauses_append hsa, List.flatMap_append, ha.texts hsa, hb.texts hsb]

theorem cons (ha : a.Brings js ts) (hl : (Contribution.all l).Brings ks us) :
    (Contribution.all (a :: l)).Brings (js ++ ks) (ts ++ us) := append ha hl

/-- What brings nothing does not count. -/
theorem skip (ha : a.Brings [] []) (hl : (Contribution.all l).Brings ks us) :
    (Contribution.all (a :: l)).Brings ks us := cons ha hl

theorem join (j : Join) (h : c.Brings js ts) : (clause (.join j) ++ c).Brings (j :: js) ts := by
  have hj : (clause (.join j)).Brings [j] [] := ⟨fun _ => rfl, fun _ => rfl⟩
  exact hj.append h

theorem ofOption {f : α → Contribution} {o : Option α} {js : α → List Join}
    {ts : α → List String} (h : ∀ a ∈ o, (f a).Brings (js a) (ts a)) :
    (ofOption f o).Brings (o.elim [] js) (o.elim [] ts) := by
  cases o with
  | none => exact empty
  | some a => exact h a rfl

/-- A criterion that joins nothing. -/
theorem ofOption_texts {f : α → Contribution} {o : Option α} {ts : α → List String}
    (h : ∀ a ∈ o, (f a).Brings [] (ts a)) :
    (Contribution.ofOption f o).Brings [] (o.elim [] ts) := by
  cases o with
  | none => exact empty
  | some a => exact h a rfl

/-- A criterion that joins nothing and has no texts of the user. -/
theorem ofOption_nothing {f : α → Contribution} {o : Option α} (h : ∀ a ∈ o, (f a).Brings [] []) :
    (Contribution.ofOption f o).Brings [] [] := by
  cases o with
  | none => exact empty
  | some a => exact h a rfl

theorem unsupported (e : Entity) (field : String) (o : Option α) :
    (unsupported e field o).Brings [] [] := ofOption_nothing fun _ _ => fail _

theorem ofExcept {f : α → Contribution} {x : Except CompileError α}
    (h : ∀ a, x = .ok a → (f a).Brings js ts) : (ofExcept f x).Brings js ts := by
  cases x with
  | ok a => exact h a rfl
  | error e => exact fail e

end Brings

end Contribution

end ObservationQuery
