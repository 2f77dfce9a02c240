import ObservationQuery.Compile.Error
import ObservationQuery.Filter.Basic

/-!
# Following references

A reference to a linked entity is either a join with its table or a condition on the column that
holds the identifier of the entity.

* `Resolution` — the two ways.
* `Linked.resolve` — bare identifiers never need the table. A filter is joined where the table is
  configured; where it is not, a filter that only names identifiers will do, and any other fails,
  since leaving out its criteria would select too much.
-/

namespace ObservationQuery

/-- How a reference is followed. -/
inductive Resolution (F : Type) where
  /-- Join the table and apply the filter to it. -/
  | join (table : String) (filter : F)
  /-- Constrain the referring column. -/
  | flat (ids : LinkIds)
  deriving DecidableEq, Repr

/-- How a reference is followed to an entity whose table is `table?`. The field of the reference is
named in the error. -/
def Linked.resolve {F : Type} [Linkable F] (link : Linked F) (table? : Option String)
    (entity : Entity) (field : String) : Except CompileError (Resolution F) :=
  match link, table? with
  | .ids internalIds, _ => .ok (.flat ⟨internalIds, ∅⟩)
  | .filter nested, some table => .ok (.join table nested)
  | .filter nested, none =>
    match idsOnly? nested with
    | some named => .ok (.flat named)
    | none => .error (.noLinkedStore entity field)

end ObservationQuery
