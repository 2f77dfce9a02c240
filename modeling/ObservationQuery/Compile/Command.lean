import ObservationQuery.Compile.Stream

/-!
# Filters on command streams and commands

A command refers to its command stream. A command stream that must have a matching command is found
by a sub-query over the commands, so that it is returned once however many commands match.

* `CommandFilter.ownContribution` — the criteria on the command itself.
* `CommandFilter.matchingStreams` — the query of the streams that have a matching command.
* `CommandStreamFilter.contribution`, `CommandFilter.contribution` — what a filter contributes to a
  query over the table `root` when its rows are in `table`.
-/

namespace ObservationQuery

namespace CommandRow

/-- The internal identifier. -/
def id (table : String) : Expr := .column table "id"

/-- The internal identifier of the command stream. -/
def streamId (table : String) : Expr := .column table "commandstreamid"

/-- The sender. -/
def senderId (table : String) : Expr := .column table "senderid"

/-- The internal identifier of the addressed feature; null where there is none. -/
def foiId (table : String) : Expr := .column table "foiid"

/-- The commands of a stream are a series in time. -/
def issued (table : String) : TimedRows where
  table := table
  key := [id table]
  target := .moment (.column table "issueTime")
  group := [streamId table]

end CommandRow

/-- What the criteria on the command itself contribute to a query over the table `root`. -/
def CommandFilter.ownContribution (root table : String) (f : CommandFilter) : Contribution :=
  .all [
    .condition? (Condition.hasId (CommandRow.id table) f.internalIds),
    .condition? (Condition.hasName (CommandRow.senderId table) f.senderIds),
    .condition? (Condition.hasFeature (CommandRow.foiId table) f.foiIds),
    .ofOption (fun time => time.contribution root (CommandRow.issued table)) f.issueTime]

/-- What a filter contributes to a query over its own table, for commands of a stream that is given
already: it cannot refer to streams again. -/
def CommandFilter.scopedContribution (table : String) (f : CommandFilter) : Contribution :=
  .unsupported .command "commandStream" f.commandStream ++ f.ownContribution table table

/-- The query of the streams that have a matching command. -/
def CommandFilter.matchingStreams (table : String) (f : CommandFilter) : Query :=
  ((Query.ofTable table).addSelect (CommandRow.streamId table)).include (f.scopedContribution table)

open StreamRow

/-- Command streams with a matching command. -/
def StreamRow.commandsContribution (tables : Tables) (table : String) (f : CommandFilter) :
    Contribution :=
  match tables.table? .command with
  | none => .fail (.noLinkedStore .command "commands")
  | some commands =>
    match (f.scopedContribution commands).error with
    | some e => .fail e
    | none =>
      .condition (.inQuery [StreamRow.id table] (f.matchingStreams commands))

/-- What a filter on command streams contributes to a query over the table `root`. -/
def CommandStreamFilter.contribution (tables : Tables) (root table : String)
    (f : CommandStreamFilter) : Contribution :=
  .all [
    .ofOption (systemContribution tables root table) f.system,
    .ofOption (commandsContribution tables table) f.commands,
    .condition? (Condition.hasId (StreamRow.id table) f.internalIds),
    .ofOption (StreamRow.fullTextContribution table) f.fullText,
    nameContribution table "controlInputName" f.controlInputNames,
    propertyContribution table f.taskableProperties,
    .ofOption (StreamRow.validTimeContribution root table) f.validTime]

/-- Commands of some command streams. -/
def CommandRow.streamContribution (tables : Tables) (root table : String)
    (link : Linked CommandStreamFilter) : Contribution :=
  .ofExcept (fun
      | .join streams filter =>
        .clause (.join ⟨streams, .equal (CommandRow.streamId table) (StreamRow.id streams)⟩) ++
          filter.contribution tables root streams
      | .flat ids => .condition? (Condition.hasId (CommandRow.streamId table) ids.internalIds))
    (link.resolve (tables.table? .commandStream) .commandStream "commandStream")

/-- What a filter on commands contributes to a query over the table `root`. -/
def CommandFilter.contribution (tables : Tables) (root table : String) (f : CommandFilter) :
    Contribution :=
  .ofOption (CommandRow.streamContribution tables root table) f.commandStream ++
    f.ownContribution root table

end ObservationQuery
