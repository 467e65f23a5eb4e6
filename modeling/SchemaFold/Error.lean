import SchemaFold.Json.Fault
import SchemaFold.Limits.Basic
import SchemaFold.Name.Basic
import SchemaFold.Path.Step
import SchemaFold.Source.Fault
import SchemaFold.Xml.Fault
/-!
Everything that can end a run.

* `ParseFailure`: a text that is not a schema document, with its place and its source;
* `Error`: the causes by kind;
* `Error.message`: the wording, which begins with the kind.
-/

namespace SchemaFold

open Text (Position)

/-- Why a text is not taken as a schema document. -/
inductive ParseCause
  | malformed (fault : Xml.Fault)
  | notSchema (found : String)
  | other (message : String)
  deriving DecidableEq, Repr

/-- The wording of a cause. -/
def ParseCause.message : ParseCause → String
  | .malformed fault => fault.message
  | .notSchema found => "expected an xs:schema root element, found '" ++ found ++ "'"
  | .other message => message

/-- A cause, where it was found, and in which source. -/
structure ParseFailure where
  cause : ParseCause
  location : Option String
  source : Option String
  deriving DecidableEq, Repr

/-- The wording of a failure: the place and the source stand in paragraphs of their own. -/
def ParseFailure.message (failure : ParseFailure) : String :=
  failure.cause.message ++
    (match failure.location with
      | some location => "\n\nLocation: " ++ location
      | none => "") ++
    (match failure.source with
      | some source => "\n\nSource: " ++ source
      | none => "")

/-- What can be wrong with a configuration. -/
inductive ConfigFault
  | twoSources
  | noSource
  | notLocal (url : String)
  | other (message : String)
  deriving DecidableEq, Repr

/-- The wording of a fault. -/
def ConfigFault.message : ConfigFault → String
  | .twoSources => "schemaUrl and schemaFile are mutually exclusive"
  | .noSource => "one of schemaUrl or schemaFile is required"
  | .notLocal url => "'" ++ url ++ "' is not a local file URL"
  | .other message => message

/-- How a program ended. -/
inductive ExitStatus
  | code (n : Nat)
  | signal (n : Nat) (name : String)
  deriving DecidableEq, Repr

/-- The wording of an end. -/
def ExitStatus.text : ExitStatus → String
  | .code n => "exit status: " ++ toString n
  | .signal n name => "signal: " ++ toString n ++ " (" ++ name ++ ")"

/-- Why a construct is not emitted. -/
inductive EmitFault
  | cannotRun (program : String) (fault : Files.Fault)
  | failed (program : String) (status : ExitStatus) (name : String)
  | other (message : String)
  deriving DecidableEq, Repr

/-- The wording of a fault. -/
def EmitFault.message : EmitFault → String
  | .cannotRun program fault => "failed to run " ++ program ++ ": " ++ fault.message
  | .failed program status name =>
    program ++ " exited with " ++ status.text ++ " for '" ++ name ++ "'"
  | .other message => message

/-- A JSON text that cannot be read, or one that cannot be written. -/
inductive JsonFault
  | unreadable (failure : Json.Failure)
  | unwritable (reason : String)
  deriving DecidableEq, Repr

/-- The wording of a fault. -/
def JsonFault.message : JsonFault → String
  | .unreadable failure => failure.message
  | .unwritable reason => reason

/-- What ends a run. -/
inductive Error
  | config (fault : ConfigFault)
  | resource (path : String) (fault : Files.Fault)
  | parse (failure : ParseFailure)
  | unsupportedSource (url : String)
  | duplicateKey (key element : String) (location : Position)
  | missingIdentifier (element : String) (location : Position)
  | query (fault : Path.Fault)
  | namespaces (fault : Name.Fault)
  | limitExceeded (fault : LimitFault)
  | emit (fault : EmitFault)
  | io (reason : String)
  | json (fault : JsonFault)
  | url (fault : Url.Fault)
  deriving DecidableEq, Repr

/-- The wording of an error. -/
def Error.message : Error → String
  | .config fault => "configuration error: " ++ fault.message
  | .resource path fault => "failed to read '" ++ path ++ "': " ++ fault.message
  | .parse failure => "parse error: " ++ failure.message
  | .unsupportedSource address =>
    "unsupported schema source: loading schemas from URLs is not supported: " ++ address
  | .duplicateKey key element location =>
    "duplicate key '" ++ key ++ "' produced by <" ++ element ++ "> at " ++ location.text
  | .missingIdentifier element location =>
    "<" ++ element ++ "> at " ++ location.text ++ " has neither a 'name' nor a 'ref' attribute"
  | .query fault => "query error: " ++ fault.message
  | .namespaces fault => "namespace error: " ++ fault.message
  | .limitExceeded fault => "limit exceeded: " ++ fault.message
  | .emit fault => "emit error: " ++ fault.message
  | .io reason => "I/O error: " ++ reason
  | .json fault => "JSON error: " ++ fault.message
  | .url fault => "URL error: " ++ fault.message

end SchemaFold
