import ObservationQuery.Compile.Command
import ObservationQuery.Compile.Observation

/-!
# From filters to queries

* `Filter.contribution` — what a filter of any entity contributes to a query.
* `Filter.compileInto` — a query that may have parts of its own, after a filter has been added to
  it.
* `Tables.require` — the table a filter needs in order to be compiled on its own.
* `compile` — the query of a filter: its contribution to a query over the table of its entity, with
  its row limit.
-/

namespace ObservationQuery

/-- What a filter contributes to a query over the table `root` when its rows are in `table`. -/
def Filter.contribution (tables : Tables) (root table : String) : Filter → Contribution
  | observation f => f.contribution tables root table
  | observationStatistics f => f.contribution tables root table
  | dataStream f => f.contribution tables root table none
  | featureOfInterest f => f.contribution root table
  | system f => f.contribution root table
  | commandStream f => f.contribution tables root table
  | command f => f.contribution tables root table

/-- The same where a stream may be pinned, which filters on data streams heed and no others. -/
def Filter.pinnedContribution (tables : Tables) (root table : String) (pin : Option Int64) :
    Filter → Contribution
  | dataStream f => f.contribution tables root table pin
  | f => f.contribution tables root table

@[simp] theorem Filter.pinnedContribution_none (tables : Tables) (root table : String)
    (f : Filter) :
    f.pinnedContribution tables root table none = f.contribution tables root table := by
  cases f <;> rfl

/-- A query after a filter whose rows are in `table`, and the error that stopped it. What was
contributed before the error stays. -/
def Filter.compileInto (tables : Tables) (table : String) (pin : Option Int64) (f : Filter)
    (q : Query) : Query × Option CompileError :=
  let c := f.pinnedContribution tables q.table table pin
  (q.include c, c.error)

/-- The entity whose rows a filter selects; statistics select observations. -/
def Entity.source : Entity → Entity
  | observationStatistics => observation
  | entity => entity

/-- The table of the rows of an entity. -/
def Tables.require (tables : Tables) (entity : Entity) : Except CompileError String :=
  match tables.table? entity with
  | some table => .ok table
  | none => .error (.missingTable entity.source)

/-- The query with a row limit, where there is one. -/
def Query.limitTo (q : Query) : Option UInt64 → Except CompileError Query
  | none => .ok q
  | some limit =>
    if limit ≤ maxLimit then .ok (q.setLimit limit)
    else .error (.invalidFilter (.limitTooGreat limit))

/-- The query of a filter over a table, without its row limit. -/
def Filter.queryOver (tables : Tables) (table : String) (filter : Filter) :
    Except CompileError Query :=
  let c := filter.contribution tables table table
  match c.error with
  | none => .ok ((Query.ofTable table).include c)
  | some e => .error e

/-- The query of a filter. -/
def compile (tables : Tables) (filter : Filter) : Except CompileError Query := do
  let table ← tables.require filter.entity
  let query ← filter.queryOver tables table
  query.limitTo filter.limit

end ObservationQuery
