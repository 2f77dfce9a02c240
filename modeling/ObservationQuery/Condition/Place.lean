import ObservationQuery.Compile.Error
import ObservationQuery.Sql.Query
import ObservationQuery.Text.Blank

/-!
# Conditions on places

* `Condition.isPlaced` — the condition of a criterion on a place, which must name a geometry.
-/

namespace ObservationQuery.Condition

/-- The stored geometry satisfies a criterion on a place. -/
def isPlaced (geometry : Expr) (place : SpatialFilter) : Except CompileError Condition :=
  if Text.trim place.wkt = "" then .error (.invalidFilter .noGeometry)
  else .ok (.of (.relatesTo geometry place.relation place.wkt place.srid))

end ObservationQuery.Condition
