import ObservationQuery.Entity

/-!
# Arguments

`compile FILE [--entity E] [--config FILE] [--count] [--output F]`, `tables [--config FILE]`,
`--version` and `--help`.

* `Request` — what the arguments ask for; `Request.ofArguments` reads it.
* `Subcommand` — what a command takes.
* `Subcommand.read` — the options and the file after the name of a command. Long options take
  their value after `=` or as the next argument, short ones also right after the letter. After `--`
  there are no options. Nothing may be given twice. The first argument that is wrong, or that asks
  for help, decides.
-/

namespace ObservationQuery

/-- How a query is printed. -/
inductive OutputFormat where
  | sql
  /-- With its sources in comment lines. -/
  | verbose
  deriving DecidableEq, Repr

/-- What the arguments ask for. -/
inductive Request where
  | compileFile (file : String) (entity : Entity) (config : Option String) (count : Bool)
      (output : OutputFormat)
  | listTables (config : Option String)
  | version
  | help
  /-- The arguments ask for nothing that there is. -/
  | misuse
  deriving DecidableEq, Repr

/-- The options of the commands. -/
inductive OptionKind where
  | entity
  | config
  | count
  | output
  deriving DecidableEq, Repr

namespace OptionKind

/-- The long name of an option. -/
def longName : OptionKind → String
  | entity => "entity"
  | config => "config"
  | count => "count"
  | output => "output"

/-- The letter of an option. -/
def letter? : OptionKind → Option Char
  | entity => some 'e'
  | config => some 'c'
  | count => none
  | output => some 'o'

end OptionKind

/-- What a command takes: options, and a file or none. -/
structure Subcommand where
  options : List OptionKind
  takesFile : Bool

namespace Subcommand

/-- The command that writes the query of a filter. -/
def compile : Subcommand := ⟨[.entity, .config, .count, .output], true⟩

/-- The command that lists the tables. -/
def tables : Subcommand := ⟨[.config], false⟩

end Subcommand

/-- The entity of an argument. -/
def Entity.ofArgument? : String → Option Entity
  | "observation" => some .observation
  | "obs-stats" => some .observationStatistics
  | "datastream" => some .dataStream
  | "foi" => some .featureOfInterest
  | "system" => some .system
  | "command-stream" => some .commandStream
  | "command" => some .command
  | _ => none

/-- The format of an argument. -/
def OutputFormat.ofArgument? : String → Option OutputFormat
  | "sql" => some .sql
  | "verbose" => some .verbose
  | _ => none

/-- The options and the file that have been read. -/
structure Options where
  file : Option String := none
  entity : Option Entity := none
  config : Option String := none
  count : Bool := false
  output : Option OutputFormat := none

namespace Options

/-- Sets an option that has not been set; only `count` has no value. -/
def set? (options : Options) : OptionKind → Option String → Option Options
  | .entity, some value => do
    guard options.entity.isNone
    return { options with entity := some (← Entity.ofArgument? value) }
  | .config, some value => do
    guard (options.config.isNone && value != "")
    return { options with config := some value }
  | .count, none => do
    guard !options.count
    return { options with count := true }
  | .output, some value => do
    guard options.output.isNone
    return { options with output := some (← OutputFormat.ofArgument? value) }
  | _, _ => none

/-- Sets the file, if the command takes one and there is none yet. -/
def setFile? (options : Options) (subcommand : Subcommand) (file : String) : Option Options := do
  guard (subcommand.takesFile && options.file.isNone && file != "")
  return { options with file := some file }

end Options

/-- Whether an argument can only be an option. -/
def isOption (argument : String) : Bool :=
  match argument.toList with
  | '-' :: _ :: _ => true
  | _ => false

/-- What an argument that begins with a hyphen stands for. -/
inductive Switch where
  | help
  /-- An option, and the value attached to it if there is one. -/
  | option (kind : OptionKind) (attached : Option String)
  | unknown

/-- What an argument that begins with a hyphen stands for. -/
def Switch.ofArgument (subcommand : Subcommand) (argument : String) : Switch :=
  match argument.toList with
  | '-' :: '-' :: rest =>
    let name := String.ofList (rest.takeWhile (· != '='))
    let attached := match rest.dropWhile (· != '=') with
      | _ :: value => some (String.ofList value)
      | [] => none
    match subcommand.options.find? (·.longName == name) with
    | some kind => option kind attached
    | none => if name = "help" ∧ attached = none then help else unknown
  | '-' :: letter :: rest =>
    let attached := match rest with
      | [] => none
      | '=' :: value => some (String.ofList value)
      | value => some (String.ofList value)
    match subcommand.options.find? (·.letter? == some letter) with
    | some kind => option kind attached
    | none => if letter = 'h' then help else unknown
  | _ => unknown

/-- What the arguments after the name of a command say. -/
inductive Reading where
  | options (options : Options)
  | help
  | misuse

namespace Reading

/-- The options that have been set, or misuse. -/
def after (options : Option Options) (rest : Options → Reading) : Reading :=
  match options with
  | some options => rest options
  | none => misuse

end Reading

namespace Subcommand

/-- Reads the arguments after the end of the options. -/
def readFiles (subcommand : Subcommand) : List String → Options → Reading
  | [], options => .options options
  | file :: arguments, options =>
    .after (options.setFile? subcommand file) (subcommand.readFiles arguments)

/-- Reads the options and the file after the name of a command. `pending` is an option whose value
is the next argument. -/
def read (subcommand : Subcommand) : Option OptionKind → List String → Options → Reading
  | none, [], options => .options options
  | some _, [], _ => .misuse
  | some kind, value :: arguments, options =>
    if isOption value then .misuse
    else .after (options.set? kind (some value)) (subcommand.read none arguments)
  | none, argument :: arguments, options =>
    if argument = "--" then subcommand.readFiles arguments options
    else if !isOption argument then
      .after (options.setFile? subcommand argument) (subcommand.read none arguments)
    else
      match Switch.ofArgument subcommand argument with
      | .help => .help
      | .unknown => .misuse
      | .option .count attached =>
        .after (options.set? .count attached) (subcommand.read none arguments)
      | .option kind none => subcommand.read (some kind) arguments options
      | .option kind (some value) =>
        .after (options.set? kind (some value)) (subcommand.read none arguments)

end Subcommand

namespace Request

/-- The request of the command `compile`. -/
def ofCompileOptions (options : Options) : Request :=
  match options.file with
  | none => misuse
  | some file =>
    compileFile file (options.entity.getD .observation) options.config options.count
      (options.output.getD .sql)

/-- The request of a command whose options have been read. -/
def ofReading (request : Options → Request) : Reading → Request
  | .options options => request options
  | .help => help
  | .misuse => misuse

/-- The request of the arguments. -/
def ofArguments : List String → Request
  | [] => misuse
  | "compile" :: arguments =>
    ofReading ofCompileOptions (Subcommand.compile.read none arguments {})
  | "tables" :: arguments =>
    ofReading (listTables ·.config) (Subcommand.tables.read none arguments {})
  | ["help"] | ["help", "compile"] | ["help", "tables"] | ["help", "help"] => help
  | "--version" :: _ => version
  | "--help" :: _ => help
  | argument :: _ =>
    match argument.toList with
    | '-' :: 'V' :: _ => version
    | '-' :: 'h' :: _ => help
    | _ => misuse

end Request

end ObservationQuery
