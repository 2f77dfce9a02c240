import ObservationQuery.CommandLine.Arguments
import ObservationQuery.Compile.Filter
import ObservationQuery.Filter.Reader
import ObservationQuery.Settings.Basic
import ObservationQuery.Text.Padding

/-!
# Answering requests

* `Failure` — why a request fails, with its wording in `Failure.message`.
* `Outcome` — what is printed, and the status the program ends with: 0, 1 for a failure, 2 for
  misuse.
* `Request.answer` — the outcome of a request, given the means to read files.
-/

namespace ObservationQuery

/-- Why a request fails. -/
inductive Failure where
  | configuration (error : SettingsError)
  | unreadableFile (file : String)
  | invalidFilter (entity : Entity) (file : String)
  | compilation (error : CompileError)
  deriving DecidableEq, Repr

/-- The wording of a failure. -/
def Failure.message : Failure → String
  | configuration error => "Configuration error: " ++ error.message
  | unreadableFile file => "Error reading file '" ++ file ++ "'"
  | invalidFilter entity file => "Invalid " ++ entity.name ++ " filter in '" ++ file ++ "'"
  | compilation error => "Compilation error: " ++ error.message

/-- What is printed, and how the program ends. -/
inductive Outcome where
  | success (output : String)
  | failure (cause : Failure)
  | misuse
  deriving DecidableEq, Repr

namespace Outcome

/-- The status the program ends with. -/
def status : Outcome → UInt8
  | success _ => 0
  | failure _ => 1
  | misuse => 2

/-- What is printed on the standard output. -/
def output : Outcome → String
  | success output => output
  | _ => ""

end Outcome

/-- Lines, each with its end. -/
def lines (l : List String) : String := String.join (l.map (· ++ "\n"))

/-- The table of each stored entity. -/
def Tables.listing (tables : Tables) : String :=
  lines (Entity.stored.map fun entity =>
    Text.padRight 15 entity.name ++ " " ++ (tables.table? entity).getD "(no store)")

/-- A query as it is printed. -/
def OutputFormat.render (format : OutputFormat) (file : String) (entity : Entity) (tables : Tables)
    (sql : String) : String :=
  match format with
  | .sql => lines [sql]
  | .verbose =>
    lines (["-- obsql Compiled SQL", "-- Source: " ++ file, "-- Entity: " ++ entity.name] ++
      tables.entries.map (fun (entity, table) => "-- Table " ++ entity.name ++ ": " ++ table) ++
      ["", sql])

/-- The version of the program. -/
def versionText : String := "obsql 0.1.0\n"

/-- How the program is used. -/
def usageText : String := lines [
  "Compile observation store filters to SQL",
  "",
  "Usage: obsql compile FILE [--entity ENTITY] [--config FILE] [--count] [--output FORMAT]",
  "       obsql tables [--config FILE]",
  "       obsql --version"]

/-- The tables of a given settings file, or of the first there is. -/
def Tables.ofConfig {m : Type → Type} [Monad m] (find : String → m FileState)
    (chosen userDirectory : Option String) (config : Option String) :
    m (Except SettingsError Tables) := do
  match config with
  | some path => return ofFile? path (← find path)
  | none => load find chosen userDirectory

/-- The text of the query of the filter in a file. -/
def queryOfFile (tables : Tables) (file : String) (entity : Entity) (count : Bool)
    (state : FileState) : Except Failure String :=
  match state with
  | .text text =>
    match Filter.read? entity text with
    | none => .error (.invalidFilter entity file)
    | some filter =>
      match compile tables filter with
      | .error e => .error (.compilation e)
      | .ok query => .ok (if count then query.countText else query.text)
  | _ => .error (.unreadableFile file)

/-- The outcome of a request. The settings are read before the file of the filter. -/
def Request.answer {m : Type → Type} [Monad m] (find : String → m FileState)
    (chosen userDirectory : Option String) : Request → m Outcome
  | version => return .success versionText
  | help => return .success usageText
  | misuse => return .misuse
  | listTables config => do
    match ← Tables.ofConfig find chosen userDirectory config with
    | .error e => return .failure (.configuration e)
    | .ok tables => return .success tables.listing
  | compileFile file entity config count output => do
    match ← Tables.ofConfig find chosen userDirectory config with
    | .error e => return .failure (.configuration e)
    | .ok tables =>
      match queryOfFile tables file entity count (← find file) with
      | .error cause => return .failure cause
      | .ok sql => return .success (output.render file entity tables sql)

end ObservationQuery
