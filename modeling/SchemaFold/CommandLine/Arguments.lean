import SchemaFold.Keyed
import SchemaFold.Text.Split
/-!
The arguments of the command line.

* `Request`: what is asked for, with its options;
* `Invocation.parse`: the request that arguments make.

Options are long (`--name`, `--name value`, `--name=value`) or short (`-n`, `-n value`, `-nvalue`,
`-n=value`); short ones without a value can be stacked. Options and the schema come in any order,
and after `--` there are no options. An option is given at most once, unless it says otherwise.
-/

namespace SchemaFold.CommandLine

/-- Why no request is carried out. -/
inductive Stop
  | version
  | help
  | misuse
  deriving DecidableEq, Repr

/-- Where the schema comes from and how it is read. -/
structure SchemaOptions where
  schema : Option String
  schemaFile : Option String
  schemaUrl : Option String
  configFile : Option String
  namespaces : List String
  lastWins : Bool
  skipUnnamed : Bool
  allowDtd : Bool
  deriving DecidableEq, Repr

/-- What is asked for. -/
inductive Request
  | dump (schema : SchemaOptions) (isCompact : Bool)
  | inspect (schema : SchemaOptions) (isJson : Bool)
  | generate (schema : SchemaOptions) (generator : Option String) (arguments : List String)
      (isDryRun : Bool)
  deriving DecidableEq, Repr

/-- A request, and how much of the log is to be shown. -/
structure Invocation where
  verbosity : Nat
  request : Request
  deriving DecidableEq, Repr

/-- How an option is given. -/
inductive OptionKind
  /-- Given once, without a value. -/
  | flag
  /-- Given any number of times, without a value. -/
  | counted
  /-- Given once, with a value, which may be empty or not. -/
  | single (allowsEmpty : Bool)
  /-- Given any number of times, with values, which may look like options or not. -/
  | repeated (allowsDash : Bool)
  deriving DecidableEq, Repr

/-- An option. -/
structure Spec where
  long : String
  short : Option Char
  kind : OptionKind
  deriving DecidableEq, Repr

namespace Spec

/-- The option has a value. -/
def hasValue (spec : Spec) : Bool :=
  match spec.kind with
  | .flag | .counted => false
  | .single _ | .repeated _ => true

/-- The option can be given more than once. -/
def isRepeatable (spec : Spec) : Bool :=
  match spec.kind with
  | .counted | .repeated _ => true
  | .flag | .single _ => false

/-- The option takes the empty value. -/
def allowsEmpty (spec : Spec) : Bool := spec.kind != .single false

/-- The option takes values that look like options. -/
def allowsDash (spec : Spec) : Bool := spec.kind == .repeated true

end Spec

/-- The options of every request. -/
def commonSpecs : List Spec :=
  [⟨"verbose", some 'v', .counted⟩, ⟨"schema-file", none, .single false⟩,
   ⟨"schema-url", none, .single true⟩, ⟨"config", some 'c', .single false⟩,
   ⟨"namespace", some 'n', .repeated false⟩, ⟨"last-wins", none, .flag⟩,
   ⟨"skip-unnamed", none, .flag⟩, ⟨"allow-dtd", none, .flag⟩]

/-- The options of a request, by its name. -/
def specs? (request : String) : Option (List Spec) :=
  match request with
  | "dump" => some (commonSpecs ++ [⟨"compact", none, .flag⟩])
  | "inspect" => some (commonSpecs ++ [⟨"json", some 'j', .flag⟩])
  | "generate" => some (commonSpecs ++
      [⟨"generator", some 'g', .single true⟩, ⟨"generator-arg", none, .repeated true⟩,
       ⟨"dry-run", none, .flag⟩])
  | _ => none

/-! ### One argument after the other -/

/-- What the next argument is: anything, the value of an option, or no option in any case. -/
inductive Mode
  | open
  | valueOf (spec : Spec)
  | closed
  deriving DecidableEq, Repr

/-- The options and the schema found so far, options by their long names. -/
structure Found where
  mode : Mode
  options : List (String × String)
  schema : Option String
  deriving DecidableEq, Repr

namespace Found

/-- Nothing found. -/
def empty : Found := ⟨.open, [], none⟩

/-- With one more option. -/
def add (found : Found) (spec : Spec) (value : String) : Except Stop Found :=
  if (!spec.isRepeatable && (found.options.any (fun o => o.1 == spec.long))) ||
      (value.isEmpty && !spec.allowsEmpty && spec.hasValue) then .error .misuse
  else .ok { found with mode := .open, options := found.options ++ [(spec.long, value)] }

/-- With the schema. -/
def addSchema (found : Found) (schema : String) : Except Stop Found :=
  if found.schema.isSome then .error .misuse else .ok { found with schema := some schema }

/-- With a long option, of which the text after an equality sign is the value. -/
def addLong (specs : List Spec) (found : Found) (text : List Char) : Except Stop Found :=
  let (name, value) := match Text.cutChars '=' text with
    | some (name, value) => (String.ofList name, some (String.ofList value))
    | none => (String.ofList text, none)
  match specs.find? (fun spec => spec.long == name), value with
  | some spec, some value => if spec.hasValue then found.add spec value else .error .misuse
  | some spec, none =>
    if spec.hasValue then .ok { found with mode := .valueOf spec } else found.add spec ""
  | none, none => .error (if name = "help" then .help else .misuse)
  | none, some _ => .error .misuse

/-- With short options, of which only the last can have a value. -/
def addShort (specs : List Spec) : Found → List Char → Except Stop Found
  | found, [] => .ok found
  | found, c :: cs =>
    match specs.find? (fun spec => spec.short == some c) with
    | none => .error (if c = 'h' then .help else .misuse)
    | some spec =>
      if !spec.hasValue then do addShort specs (← found.add spec "") cs
      else
        match cs with
        | [] => .ok { found with mode := .valueOf spec }
        | '=' :: value => found.add spec (String.ofList value)
        | value => found.add spec (String.ofList value)

/-- An argument looks like an option. -/
def looksLikeOption (argument : String) : Bool :=
  argument.toList.head? == some '-' && argument != "-"

/-- With one more argument. -/
def step (specs : List Spec) (found : Found) (argument : String) : Except Stop Found :=
  match found.mode with
  | .closed => found.addSchema argument
  | .valueOf spec =>
    if spec.allowsDash || !looksLikeOption argument then found.add spec argument
    else .error .misuse
  | .open =>
    if argument = "--" then .ok { found with mode := .closed }
    else if !looksLikeOption argument then found.addSchema argument
    else
      match argument.toList with
      | '-' :: '-' :: text => found.addLong specs text
      | _ :: text => found.addShort specs text
      | [] => .error .misuse

/-- All arguments of a request. -/
def ofArguments (specs : List Spec) (arguments : List String) : Except Stop Found := do
  let found ← arguments.foldlM (step specs) empty
  match found.mode with
  | .valueOf _ => throw .misuse
  | .open | .closed => return found

/-- The values of an option. -/
def values (found : Found) (long : String) : List String :=
  (found.options.filter (fun o => o.1 == long)).map (·.2)

/-- The value of an option that is given once. -/
def value? (found : Found) (long : String) : Option String := (found.values long).head?

/-- A flag is given. -/
def has (found : Found) (long : String) : Bool := (found.value? long).isSome

end Found

/-! ### The whole -/

/-- The options that say where the schema comes from. -/
def SchemaOptions.ofFound (found : Found) : SchemaOptions where
  schema := found.schema
  schemaFile := found.value? "schema-file"
  schemaUrl := found.value? "schema-url"
  configFile := found.value? "config"
  namespaces := found.values "namespace"
  lastWins := found.has "last-wins"
  skipUnnamed := found.has "skip-unnamed"
  allowDtd := found.has "allow-dtd"

/-- The request with a name. Without a dry run, `generate` needs a generator. -/
def Request.ofFound (name : String) (found : Found) : Except Stop Request :=
  let schema := SchemaOptions.ofFound found
  match name with
  | "dump" => .ok (.dump schema (found.has "compact"))
  | "inspect" => .ok (.inspect schema (found.has "json"))
  | "generate" =>
    if (found.value? "generator").isSome || found.has "dry-run" then
      .ok (.generate schema (found.value? "generator") (found.values "generator-arg")
        (found.has "dry-run"))
    else .error .misuse
  | _ => .error .misuse

/-- Short options before the name of the request. -/
def leading (verbosity : Nat) : List Char → Except Stop Nat
  | [] => .ok verbosity
  | 'v' :: cs => leading (verbosity + 1) cs
  | 'V' :: _ => .error .version
  | 'h' :: _ => .error .help
  | _ => .error .misuse

/-- What is asked about with `help`. -/
def helpAbout (topics : List String) : Stop :=
  if topics.all (fun topic => topic == "help" || (specs? topic).isSome) then .help else .misuse

namespace Invocation

/-- The request that arguments make, some options before it counted already. Options that count and
are given after the name of the request make the ones before it void. -/
def parseFrom (verbosity : Nat) : List String → Except Stop Invocation
  | [] => .error .misuse
  | argument :: rest =>
    if argument = "--verbose" then parseFrom (verbosity + 1) rest
    else if argument = "--version" then .error .version
    else if argument = "--help" then .error .help
    else if argument = "help" then .error (helpAbout rest)
    else
      match specs? argument with
      | some specs => do
        let found ← Found.ofArguments specs rest
        let request ← Request.ofFound argument found
        let inner := (found.values "verbose").length
        return ⟨if inner = 0 then verbosity else inner, request⟩
      | none =>
        match argument.toList with
        | '-' :: '-' :: _ => .error .misuse
        | '-' :: c :: cs => do parseFrom (← leading verbosity (c :: cs)) rest
        | _ => .error .misuse

/-- The request that arguments make. -/
def parse (arguments : List String) : Except Stop Invocation := parseFrom 0 arguments

end Invocation

end SchemaFold.CommandLine
