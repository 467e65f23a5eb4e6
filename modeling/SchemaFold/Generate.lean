import SchemaFold.Config.Basic
import SchemaFold.Emit.Basic
import SchemaFold.Files
import SchemaFold.Schema
/-!
Whole runs, from a configuration to the last construct.

* `Source.load`: the text of a schema;
* `Config.load`: the model of the configured schema;
* `Config.generate`: the same, and its constructs handed to an emitter.

What is wrong with a configuration is found before any file is read, and an emitter sees nothing of
a schema that could not be loaded.
-/

namespace SchemaFold

variable {σ : Type}

/-- The text of a schema. Only files can be read; their size in bytes is bounded. -/
def Source.load (source : Source) (limits : Limits) (read : Files.Reader) : Act String :=
  match source with
  | .remote address => Act.fail (.unsupportedSource address.text)
  | .file path => do
    Act.report (.reading path)
    match read path with
    | .error fault => Act.fail (.resource path fault)
    | .ok text =>
      match limits.checkSize text.utf8ByteSize with
      | .error fault => Act.fail (.limitExceeded fault)
      | .ok () => return text

namespace Config

/-- The model of the configured schema. -/
def load (config : Config) (table : RuleTable) (read : Files.Reader)
    (readUrl : Url.Reader := Url.parse) : Act Model := do
  let source ← Act.ofExcept (config.source readUrl)
  let options ← config.options
  Act.report (.loading source.text)
  let text ← source.load config.limits read
  let model ← Schema.modelOfText table options config.allowDtd config.sourceName text
  Act.report (.transformed model.size)
  return model

/-- The model of the configured schema, once all its constructs have been emitted. -/
def generate (config : Config) (table : RuleTable) (read : Files.Reader) (emitter : Emitter σ)
    (s : σ) (readUrl : Url.Reader := Url.parse) : σ × Act Model :=
  let loaded := config.load table read readUrl
  match loaded.result with
  | .error e => (s, ⟨loaded.log, .error e⟩)
  | .ok model =>
    let (last, emitted) := emitter.emitAll model.constructs s
    (last, ⟨loaded.log ++ emitted.log, emitted.result.map (fun _ => model)⟩)

end Config

end SchemaFold
