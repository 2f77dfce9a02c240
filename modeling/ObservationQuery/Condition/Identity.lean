import ObservationQuery.Sql.Query

/-!
# Conditions on identifiers

* `Condition.isId` — an expression is an identifier.
* `Condition.hasId`, `Condition.hasName` — an expression is one of the members of a set.
* `Condition.hasFeature` — an expression refers to one of some features; `noFeature` stands for
  none.
* `Condition.hasUniqueId` — a text matches one of some unique identifiers, in which `*` stands for
  any text.

An empty set constrains nothing, so it has no condition.
-/

namespace ObservationQuery.Condition

/-- The test that `e` is one of the identifiers, if there are any. -/
def idTests (e : Expr) (ids : IdSet) : List Predicate := if ids.isEmpty then [] else [.hasId e ids]

/-- `e` is an identifier. -/
def isId (e : Expr) (id : Int64) : Condition := .of (.hasId e (.singleton id))

/-- `e` is one of the identifiers. -/
def hasId (e : Expr) (ids : IdSet) : Option Condition := anyOf? (idTests e ids)

/-- `e` refers to one of the features; it is null where there is no feature. -/
def hasFeature (e : Expr) (ids : IdSet) : Option Condition :=
  anyOf? ((if noFeature ∈ ids then [.isNull e] else []) ++
    idTests e (ids.filter (· != noFeature)))

/-- `e` is one of the names. -/
def hasName (e : Expr) (names : NameSet) : Option Condition :=
  if names.isEmpty then none else some (.of (.hasText e names))

/-- The pattern of a unique identifier with a wildcard: `%` for each `*`. -/
def likePattern? (uid : String) : Option String :=
  if '*' ∈ uid.toList then
    some (String.ofList (uid.toList.map fun c => if c = '*' then '%' else c))
  else none

/-- `e` matches a unique identifier: a pattern matches whatever the case, any other identifier has
to be equal. -/
def uniqueIdTest (e : Expr) (uid : String) : Predicate :=
  match likePattern? uid with
  | some pattern => .isLike e pattern
  | none => .isText e uid

/-- `e` matches one of the unique identifiers. -/
def hasUniqueId (e : Expr) (uids : NameSet) : Option Condition :=
  anyOf? (uids.toList.map (uniqueIdTest e))

end ObservationQuery.Condition
