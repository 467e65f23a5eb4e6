import SchemaFold.Rule.Table
import SchemaFold.Source.Location
/-!
Configurations: everything that a run needs to know.

* `Config`: the source, further bindings, the policies and the bounds;
* `Config.source`: the source, of which exactly one has to be given;
* `Bindings.ofListReported`: bindings with a report of every attempt on the reserved prefix;
* `Config.bindings`, `Config.options`: what the fold is shown.

No question asked of a configuration touches a file.
-/

namespace SchemaFold

/-! ### Bindings with a report -/

namespace Bindings

/-- As `bind`, with a report if the prefix is the reserved one. -/
def bindReported (b : Bindings) (pfx uri : String) : Act Bindings :=
  ⟨if canBind pfx then [] else [.reservedPrefix], .ok (b.bind pfx uri)⟩

/-- As `ofList`, with a report for every pair with the reserved prefix. -/
def ofListReported (pairs : List (String × String)) : Act Bindings :=
  pairs.foldlM (fun b pair => b.bindReported pair.1 pair.2) standard

end Bindings

/-! ### Configurations -/

/-- Everything that a run needs to know. -/
structure Config where
  schemaUrl : Option String
  schemaFile : Option String
  namespaces : Keyed String
  duplicateKeys : DuplicateKeys
  missingIdentifier : MissingIdentifier
  allowDtd : Bool
  limits : Limits
  deriving DecidableEq, Repr

namespace Config

/-- The configuration that holds unless something else is given. It has no source. -/
def standard : Config := ⟨none, none, [], .reject, .reject, false, .standard⟩

/-- With one more binding, or a new URI for a prefix. -/
def withNamespace (config : Config) (pfx uri : String) : Config :=
  { config with namespaces := Keyed.put pfx uri config.namespaces }

/-- The source of the schema. An address is read by `readUrl`. -/
def source (config : Config) (readUrl : Url.Reader := Url.parse) : Except Error Source :=
  match config.schemaUrl, config.schemaFile with
  | some _, some _ => .error (.config .twoSources)
  | none, none => .error (.config .noSource)
  | some address, none => Source.ofUrl address readUrl
  | none, some path => .ok (.file path)

/-- The standard bindings with the configured ones, whose prefixes have to be names. -/
def bindings (config : Config) : Act Bindings :=
  match (Keyed.keys config.namespaces).find? (fun pfx => !Name.isNCName pfx) with
  | some pfx => Act.fail (.namespaces (.invalidPrefix pfx))
  | none => Bindings.ofListReported config.namespaces

/-- What the fold is shown. -/
def options (config : Config) : Act Options := do
  let bindings ← config.bindings
  return ⟨config.duplicateKeys, config.missingIdentifier, config.limits, bindings⟩

/-- What the document is called in errors. -/
def sourceName (config : Config) : Option String := config.schemaFile.or config.schemaUrl

end Config

end SchemaFold
