import SchemaFold.Fold
import SchemaFold.Model
import SchemaFold.Path.Select
import SchemaFold.Xml.Reader
/-!
Schema documents.

* `Schema.read`: a text as a document;
* `Schema.checkAttributes`: no element of a document has too many attributes;
* `Schema.model`: the model of a document, whose root element has to be a schema;
* `Schema.modelOfText`: the model of a text.
-/

namespace SchemaFold.Schema

open Xml (Document Place)

/-- The text as a document. Errors name the place of the fault and the source. -/
def read (allowTypes : Bool) (sourceName : Option String) (text : String) : Except Error Document :=
  match Document.read allowTypes text with
  | .ok document => .ok document
  | .error fault => .error (.parse ⟨.malformed fault, some fault.position.text, sourceName⟩)

/-- No element of a document has more attributes than the bounds allow; the first one that has is
named. -/
def checkAttributes (limits : Limits) (document : Document) : Except Error Unit :=
  (document.places.filter (fun place => place.start?.isSome)).forM (fun place =>
    match limits.checkAttributes place.attributes.length with
    | .ok () => .ok ()
    | .error fault => .error (.limitExceeded fault))

/-- The schema elements of a document, which can only be its root. -/
def roots (bindings : Bindings) (document : Document) : List Place :=
  (Path.schemaRoot.select bindings (.top document)).filterMap Path.Match.place?

/-- Folds places one after the other into a context. -/
def foldAll (table : RuleTable) (options : Options) : List Place → Context → Run
  | [], c => .done c
  | place :: rest, c => (place.fold table options [] c).andThen (foldAll table options rest)

/-- A document whose root is no schema. -/
def notSchema (document : Document) : Error :=
  let root := document.rootPlace
  .parse ⟨.notSchema root.localName, some root.location.text, none⟩

/-- The model of a document. -/
def model (table : RuleTable) (options : Options) (document : Document) : Act Model := do
  Act.ofExcept (checkAttributes options.limits document)
  let places := roots options.bindings document
  let run := foldAll table options places .empty
  let _ ← (⟨run.log, run.result⟩ : Act Unit)
  if places.isEmpty then Act.fail (notSchema document)
  return ⟨run.context⟩

/-- The model of a text. -/
def modelOfText (table : RuleTable) (options : Options) (allowTypes : Bool)
    (sourceName : Option String) (text : String) : Act Model := do
  let document ← Act.ofExcept (read allowTypes sourceName text)
  model table options document

end SchemaFold.Schema
