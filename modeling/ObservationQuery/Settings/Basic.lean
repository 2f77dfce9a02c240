import ObservationQuery.Settings.Files
import ObservationQuery.Tables.Basic
import ObservationQuery.Text.Quoted
import ObservationQuery.Toml.Reader

/-!
# Settings

The settings name the tables of a deployment. They are a TOML document with a table `tables`.

* `SettingsError` — why there are no settings, with its wording in `SettingsError.message`.
* `Tables.ofDocument?` — the tables that a TOML document names.
* `Tables.ofSettings?` — the tables that a text names, if their names are table names.
* `Tables.ofFile?` — the tables that a file names.
* `Tables.load` — the tables of the file in the environment variable `OBSQL_CONFIG`, else of
  `obsql.toml`, else of `obsql/config.toml` in the user's configuration directory, else the standard
  ones.
-/

namespace ObservationQuery

/-- Why there are no settings. -/
inductive SettingsError where
  | fileNotFound (path : String)
  | unreadable
  | unparsable
  | invalidTableName (entity : Entity) (name : String)
  deriving DecidableEq, Repr

/-- The wording of an error. -/
def SettingsError.message : SettingsError → String
  | fileNotFound path => "Config file not found: " ++ path
  | unreadable => "Failed to read config file"
  | unparsable => "Failed to parse config file"
  | invalidTableName entity name =>
    "Invalid table name for " ++ entity.name ++ ": " ++ Text.quoted name

namespace Tables

/-- The name of the table of an entity, or its standard name where no value is given. -/
def nameOfToml? (entity : Entity) : Option Toml.Value → Option (Option String)
  | none => some (standard.table? entity)
  | some (.string name) => some (some name)
  | some _ => none

/-- Tables whose names are given in the order of `Entity.stored`. -/
def ofNames? (values : List (Option Toml.Value)) : Option Tables :=
  (Entity.stored.zip values).foldlM (fun tables (entity, value) => do
    return tables.set entity (← nameOfToml? entity value)) standard

/-- The tables of a TOML value: a table with the keys of the entities, or an array of names in the
order of the keys. All values of a table are read, of an array only as many as there are keys. A
time has parts, as a table has, but none with the key of an entity. -/
def ofToml? : Toml.Value → Option Tables
  | .table _ entries =>
    if Toml.entriesReadable entries then ofNames? (keys.map fun key => entries.lookup key) else none
  | .array items => ofNames? (items.map some)
  | .time => some standard
  | _ => none

/-- The tables of a document, of which all other values are read too. -/
def ofDocument? (entries : Toml.Entries) : Option Tables :=
  if Toml.entriesReadable (entries.filter (·.1 != "tables")) then
    match entries.lookup "tables" with
    | none => some standard
    | some value => ofToml? value
  else none

/-- The first table whose name is no table name, as an error. -/
def validate (tables : Tables) : Except SettingsError Unit :=
  match tables.invalidEntry? with
  | none => .ok ()
  | some (entity, name) => .error (.invalidTableName entity name)

/-- The tables that a text names. -/
def ofSettings? (text : String) : Except SettingsError Tables := do
  let tables ← ((Toml.read? text).bind ofDocument?).elim (.error .unparsable) .ok
  tables.validate
  return tables

/-- The tables that the file at a path names. -/
def ofFile? (path : String) : FileState → Except SettingsError Tables
  | .missing => .error (.fileNotFound path)
  | .unreadable => .error .unreadable
  | .text text => ofSettings? text

/-- The tables of the first settings there are. `chosen` is the path in the environment variable,
`userDirectory` the user's configuration directory. -/
def load {m : Type → Type} [Monad m] (find : String → m FileState)
    (chosen userDirectory : Option String) : m (Except SettingsError Tables) := do
  match chosen with
  | some path => return ofFile? path (← find path)
  | none =>
    match ← find "obsql.toml" with
    | .missing =>
      match userDirectory with
      | none => return .ok standard
      | some directory =>
        let path := directory ++ "/obsql/config.toml"
        match ← find path with
        | .missing => return .ok standard
        | state => return ofFile? path state
    | state => return ofFile? "obsql.toml" state

end Tables

end ObservationQuery
