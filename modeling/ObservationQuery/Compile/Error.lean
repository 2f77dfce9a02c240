import ObservationQuery.Entity
import ObservationQuery.Instant.Printer

/-!
# Why a filter has no query

* `Fault` — what is wrong with a criterion in itself.
* `CompileError` — why a filter has no query, with its wording in `CompileError.message`.
-/

namespace ObservationQuery

/-- The greatest row limit of a query. -/
def maxLimit : UInt64 := 9223372036854775807

/-- What is wrong with a criterion in itself. -/
inductive Fault where
  /-- A time range ends before it begins. -/
  | reversedRange (first last : Instant)
  /-- A search has no keyword that is not blank. -/
  | noKeywords
  /-- There is no description to search. -/
  | nothingToSearch
  /-- A place has a blank geometry. -/
  | noGeometry
  /-- "No feature" stands beside criteria on features. -/
  | noFeatureCombined
  /-- A row limit is greater than a query can have. -/
  | limitTooGreat (limit : UInt64)
  deriving DecidableEq, Repr

/-- The wording of a fault. -/
def Fault.message : Fault → String
  | reversedRange first last =>
    "time range ends before it begins: " ++ first.offsetText ++ " > " ++ last.offsetText
  | noKeywords => "full text filter has no keywords"
  | nothingToSearch => "nothing to search"
  | noGeometry => "spatial filter has no geometry"
  | noFeatureCombined =>
    "feature id 0 (no feature) cannot be combined with other feature criteria"
  | limitTooGreat limit =>
    "limit " ++ limit.toNat.repr ++ " exceeds " ++ maxLimit.toNat.repr

/-- Why a filter has no query. -/
inductive CompileError where
  /-- A criterion of `field` needs the table of `entity`, which is not configured. -/
  | noLinkedStore (entity : Entity) (field : String)
  /-- The table of the selected entity is not configured. -/
  | missingTable (entity : Entity)
  /-- The criterion of `field` cannot be expressed. -/
  | unsupported (entity : Entity) (field : String)
  /-- A criterion is wrong in itself. -/
  | invalidFilter (fault : Fault)
  deriving DecidableEq, Repr

/-- The wording of an error. -/
def CompileError.message : CompileError → String
  | noLinkedStore entity field =>
    "No linked " ++ entity.name ++ " store (filter field '" ++ field ++ "')"
  | missingTable entity => "No table configured for " ++ entity.name
  | unsupported entity field =>
    "Filtering " ++ entity.name ++ " on '" ++ field ++ "' is not supported"
  | invalidFilter fault => "Invalid filter: " ++ fault.message

end ObservationQuery
