import ObservationQuery.Compile.Error
import ObservationQuery.Sql.Clause

/-!
# Contributions

A filter contributes clauses to a query, in order, until a criterion cannot be expressed. What it
contributes does not depend on what the query has already, except for the table of the query.

* `Contribution` — the clauses, and the error that ended them if there was one.
* `a ++ b` — first `a`, then `b` unless `a` failed; associative, with the empty contribution as its
  unit.
* `Contribution.all` — several contributions in order.
* `Query.include` — the query with the clauses of a contribution, which it keeps even when the
  contribution failed after them.
-/

namespace ObservationQuery

/-- The clauses of a filter, and the error that ended them. -/
structure Contribution where
  clauses : List Clause := []
  error : Option CompileError := none

namespace Contribution

/-- One clause. -/
def clause (c : Clause) : Contribution := { clauses := [c] }

/-- One condition. -/
def condition (c : Condition) : Contribution := clause (.condition c)

/-- A condition, where there is one. -/
def condition? : Option Condition → Contribution
  | none => {}
  | some c => condition c

/-- The failure of a criterion. -/
def fail (e : CompileError) : Contribution := { error := some e }

/-- What `f` contributes for a value, or the failure to find one. -/
def ofExcept {α : Type} (f : α → Contribution) : Except CompileError α → Contribution
  | .ok a => f a
  | .error e => fail e

/-- What a criterion contributes; nothing where it is absent. -/
def ofOption {α : Type} (f : α → Contribution) : Option α → Contribution
  | none => {}
  | some a => f a

/-- The failure of a criterion that must be absent. -/
def unsupported {α : Type} (entity : Entity) (field : String) : Option α → Contribution :=
  ofOption fun _ => fail (.unsupported entity field)

/-- First `a`, then `b` unless `a` failed. -/
def append (a b : Contribution) : Contribution :=
  match a.error with
  | none => ⟨a.clauses ++ b.clauses, b.error⟩
  | some _ => a

instance : Append Contribution := ⟨append⟩

theorem append_def (a b : Contribution) : a ++ b =
    match a.error with
    | none => ⟨a.clauses ++ b.clauses, b.error⟩
    | some _ => a := rfl

@[simp] theorem empty_append (a : Contribution) : ({} : Contribution) ++ a = a := by
  simp [append_def]

@[simp] theorem append_empty (a : Contribution) : a ++ ({} : Contribution) = a := by
  obtain ⟨cs, e⟩ := a
  cases e <;> simp [append_def]

@[simp] theorem append_assoc (a b c : Contribution) : a ++ b ++ c = a ++ (b ++ c) := by
  obtain ⟨as, ae⟩ := a
  obtain ⟨bs, be⟩ := b
  cases ae <;> cases be <;> simp [append_def]

/-- Several contributions in order, up to the first that fails. -/
def all (l : List Contribution) : Contribution := l.foldr (· ++ ·) {}

@[simp] theorem all_nil : all [] = {} := rfl

@[simp] theorem all_cons (a : Contribution) (l : List Contribution) :
    all (a :: l) = a ++ all l := rfl

end Contribution

/-- The query with the clauses of a contribution. -/
def Query.include (q : Query) (c : Contribution) : Query := q.addAll c.clauses

end ObservationQuery
