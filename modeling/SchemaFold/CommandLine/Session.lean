import SchemaFold.CommandLine.Arguments
import SchemaFold.CommandLine.Filter
import SchemaFold.CommandLine.Overview
import SchemaFold.Config.Json
import SchemaFold.Emit.Lines
import SchemaFold.Generate
import SchemaFold.Rule.Standard
import SchemaFold.Shell.Script
/-!
What the program does for its arguments.

* `Outcome`: the exit code, the output, the error output, and writes to files by generators;
* `SchemaOptions.config`: the configuration that options make, on top of one from a file;
* `run`: the outcome for arguments and environment.
-/

namespace SchemaFold.CommandLine

/-- What a run of the program leaves behind. -/
structure Outcome where
  exit : Nat
  output : String
  errors : String
  writes : List Shell.Write
  deriving DecidableEq, Repr

/-- Why a request fails. -/
inductive Failure
  | run (error : Error)
  | notBinding (argument : String)
  deriving DecidableEq, Repr

/-- The wording of a failure. -/
def Failure.message : Failure → String
  | .run error => error.message
  | .notBinding argument => "namespace binding '" ++ argument ++ "' is not PREFIX=URI"

/-! ### Configuration -/

/-- The configuration in a file, or the standard one. -/
def storedConfig (read : Files.Reader) : Option String → Except Error Config
  | none => .ok .standard
  | some path =>
    match read path with
    | .error fault => .error (.resource path fault)
    | .ok text => (Config.ofJson text).mapError (fun e => .json (.unreadable e))

/-- With the source that a text names. -/
def withSource (config : Config) (text : String) : Except Error Config := do
  match ← Source.parse text with
  | .file path => return { config with schemaFile := some path }
  | .remote address => return { config with schemaUrl := some address.text }

/-- With a binding as it is written. -/
def withBinding (config : Config) (argument : String) : Except Failure Config :=
  match Text.cutChars '=' argument.toList with
  | some (pfx, uri) =>
    .ok (config.withNamespace (Text.trim (String.ofList pfx)) (Text.trim (String.ofList uri)))
  | none => .error (.notBinding argument)

namespace SchemaOptions

/-- A source is named. -/
def hasSource (options : SchemaOptions) : Bool :=
  options.schema.isSome || options.schemaFile.isSome || options.schemaUrl.isSome

/-- With the source that options name, which takes the place of the one from a file. -/
def applySource (options : SchemaOptions) (config : Config) : Except Error Config := do
  let cleared := if options.hasSource then { config with schemaUrl := none, schemaFile := none }
    else config
  let named ← match options.schema with
    | some text => withSource cleared text
    | none => pure cleared
  return { named with
    schemaFile := options.schemaFile.or named.schemaFile
    schemaUrl := options.schemaUrl.or named.schemaUrl }

/-- The configuration that options make. -/
def config (options : SchemaOptions) (read : Files.Reader) : Except Failure Config := do
  let start ← (storedConfig read options.configFile).mapError .run
  let sourced ← (options.applySource start).mapError .run
  let bound ← options.namespaces.foldlM withBinding sourced
  return { bound with
    duplicateKeys := if options.lastWins then .lastWins else bound.duplicateKeys
    missingIdentifier := if options.skipUnnamed then .skip else bound.missingIdentifier
    allowDtd := bound.allowDtd || options.allowDtd }

end SchemaOptions

/-! ### Requests -/

/-- What a request has done: its output, what generators left behind, and the log with the end. -/
structure Report where
  output : String
  world : Shell.World
  log : List Event
  result : Except Error String

/-- A report of a computation that only prints; the result stands for the last error output. -/
def Report.ofAct (act : Act String) : Report :=
  match act.result with
  | .ok output => ⟨output, .empty, act.log, .ok ""⟩
  | .error e => ⟨"", .empty, act.log, .error e⟩

/-- The model as JSON. -/
def dumpText (config : Config) (read : Files.Reader) (isCompact : Bool) : Act String := do
  let model ← config.load .standard read
  return (if isCompact then model.compact else model.pretty) ++ "\n"

/-- The constructs at a glance. -/
def inspectText (config : Config) (read : Files.Reader) (isJson : Bool) : Act String := do
  let model ← config.load .standard read
  let summaries := model.summaries (← config.bindings)
  if isJson then return Overview.json summaries ++ "\n"
  else
    let source ← Act.ofExcept config.source
    return Overview.text source.text summaries

/-- What is said after all constructs have been emitted. -/
def processed (model : Model) : String := "Processed " ++ toString model.size ++ " constructs\n"

/-- The constructs handed to a generator, or written as lines in a dry run. -/
def generateReport (config : Config) (read : Files.Reader) (generator : Option String)
    (arguments : List String) (isDryRun : Bool) : Report :=
  match generator, isDryRun with
  | some program, false =>
    let (world, act) :=
      config.generate .standard read (Emitter.command Shell.launch program arguments) .empty
    ⟨world.output, world, act.log, act.result.map processed⟩
  | _, _ =>
    let (output, act) := config.generate .standard read Emitter.lines .unlimited
    ⟨output.text, .empty, act.log, act.result.map processed⟩

/-- The options of a request that say where the schema comes from. -/
def Request.schema : Request → SchemaOptions
  | .dump schema _ => schema
  | .inspect schema _ => schema
  | .generate schema _ _ _ => schema

/-- What is done for a request with a configuration. -/
def Request.report (request : Request) (config : Config) (read : Files.Reader) : Report :=
  match request with
  | .dump _ isCompact => .ofAct (dumpText config read isCompact)
  | .inspect _ isJson => .ofAct (inspectText config read isJson)
  | .generate _ generator arguments isDryRun =>
    generateReport config read generator arguments isDryRun

/-! ### The whole -/

/-- A failure as it is shown. -/
def failureLine (failure : Failure) : String := "Error: " ++ failure.message ++ "\n"

/-- The outcome of a request: the log that the filter lets pass, and how it ended. -/
def Report.outcome (report : Report) (filter : Filter) : Outcome :=
  let shown := String.join ((report.log.filter filter.shows).map Event.line)
  let (code, last) := match report.result with
    | .ok text => (0, text)
    | .error e => (1, failureLine (.run e))
  ⟨code, report.output, shown ++ report.world.errors ++ last, report.world.writes⟩

/-- The name and version of the program. -/
def versionText : String := "xsdgen 0.1.0\n"

/-- How the program is called. -/
def usageText : String :=
  String.join [
    "Usage: xsdgen [-v]... dump [OPTIONS] [SCHEMA] [--compact]\n",
    "       xsdgen [-v]... inspect [OPTIONS] [SCHEMA] [--json]\n",
    "       xsdgen [-v]... generate [OPTIONS] [SCHEMA] --generator PROGRAM",
    " [--generator-arg ARG]...\n",
    "       xsdgen [-v]... generate [OPTIONS] [SCHEMA] --dry-run\n",
    "Options: --schema-file FILE, --schema-url URL, --config FILE, --namespace PREFIX=URI,\n",
    "         --last-wins, --skip-unnamed, --allow-dtd\n"]

/-- The outcome when no request is carried out. -/
def Stop.outcome : Stop → Outcome
  | .version => ⟨0, versionText, "", []⟩
  | .help => ⟨0, usageText, "", []⟩
  | .misuse => ⟨2, "", usageText, []⟩

/-- The variable of the environment that filters the log. -/
def filterVariable : String := "RUST_LOG"

/-- The filter that the environment asks for, or else the one for a verbosity. -/
def filterOf (environment : List (String × String)) (verbosity : Nat) : Filter :=
  ((Keyed.get? filterVariable environment).bind Filter.parse?).getD (.ofVerbosity verbosity)

/-- The outcome for arguments and an environment. -/
def run (read : Files.Reader) (arguments : List String) (environment : List (String × String)) :
    Outcome :=
  match Invocation.parse arguments with
  | .error stop => stop.outcome
  | .ok invocation =>
    match invocation.request.schema.config read with
    | .error failure => ⟨1, "", failureLine failure, []⟩
    | .ok config =>
      (invocation.request.report config read).outcome (filterOf environment invocation.verbosity)

/-- The files that a run for these arguments may read, as far as known from the text of the first
ones. -/
def wantedFiles (read : Files.Reader) (arguments : List String) : List String :=
  match Invocation.parse arguments with
  | .error _ => []
  | .ok invocation =>
    let options := invocation.request.schema
    options.configFile.toList ++
      (match options.config read with
        | .ok config => config.schemaFile.toList
        | .error _ => [])

end SchemaFold.CommandLine
