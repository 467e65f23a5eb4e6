import SchemaFold.Context.Json
import SchemaFold.Datatype
/-!
Models: what is made of a whole schema.

* `Model`: a root context, whose nested contexts are the constructs of the schema;
* `Model.names`, `Model.get?`, `Model.summaries`: the constructs, one by one or at a glance;
* `Model.compact`, `Model.pretty`, `Model.ofJson`: a model as JSON, under the key `elements`.
-/

namespace SchemaFold

/-- The root context of a schema. -/
structure Model where
  elements : Context
  deriving DecidableEq, Repr

/-- A construct at a glance: the type that it refers to, the built-in type behind that, and how many
contexts it holds. -/
structure Summary where
  name : String
  typeRef : Option String
  builtin : Option Datatype
  children : Nat
  deriving DecidableEq, Repr

namespace Model

/-- The constructs in order. -/
def constructs (model : Model) : List (String × Context) := model.elements.contexts

/-- The names of the constructs in order. -/
def names (model : Model) : List String := model.constructs.map (·.1)

/-- The construct with a name. -/
def get? (model : Model) (name : String) : Option Context := model.elements.context? name

/-- The number of constructs. -/
def size (model : Model) : Nat := model.constructs.length

/-- There are no constructs. -/
def isEmpty (model : Model) : Bool := model.size == 0

/-- A construct at a glance. Its type is that of `type`, or else of `base`. -/
def summary (bindings : Bindings) (name : String) (construct : Context) : Summary :=
  let typeRef := (construct.scalar? "type").orElse (fun _ => construct.scalar? "base")
  ⟨name, typeRef, typeRef.bind (fun r => Datatype.resolve? r bindings), construct.contexts.length⟩

/-- All constructs at a glance. -/
def summaries (model : Model) (bindings : Bindings) : List Summary :=
  model.constructs.map (fun construct => summary bindings construct.1 construct.2)

/-- The model as a context of its own. -/
def wrapped (model : Model) : Context := .nested "elements" model.elements .empty

/-- The model as JSON without white space. -/
def compact (model : Model) : String := model.wrapped.compact

/-- The model as JSON with one entry a line. -/
def pretty (model : Model) : String := model.wrapped.pretty

open Json (Record Scan)

/-- How a model is read. Other fields are passed over. -/
def record : Record (Option Context) Model where
  title := "struct SchemaModel"
  blank := none
  fields := [("elements", fun room => do
    let elements ← Context.scan room
    return fun _ => some elements)]
  isStrict := false
  ofObject := fun found => do
    match found with
    | some elements => return ⟨elements⟩
    | none => Scan.failOpen (.missingField "elements")
  ofList := fun found => do
    match found with
    | some elements => return ⟨elements⟩
    | none => Scan.failOpen (.invalidLength 0 "struct SchemaModel with 1 element")

/-- The model that a text writes. -/
def ofJson (text : String) : Except Json.Failure Model := Json.read (record.read Scan.maxRoom) text

end Model

end SchemaFold
