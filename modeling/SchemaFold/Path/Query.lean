import SchemaFold.Name.Bindings
import SchemaFold.Path.Scan
import SchemaFold.Path.Step
/-!
Paths: steps between slashes.

* `Query.parse`: a path, relative or from the document;
* `schemaRoot`: the path to the root element of a schema.
-/

namespace SchemaFold.Path

/-- A path. An absolute one starts at the document. -/
structure Query where
  expression : String
  isAbsolute : Bool
  steps : List Step
  deriving DecidableEq, Repr

/-- Only the last step may lead to attributes. -/
def attributesLast (steps : List Step) : Bool :=
  steps.dropLast.all (fun step => step.axis != .attribute)

/-- A path as it is written. -/
def Query.parse (written : String) : Except Fault Query := do
  let expression := Text.trim written
  if expression.isEmpty then throw .emptyPath
  let steps ← (split expression).mapM Step.parse
  if !attributesLast steps then throw (.attributeNotLast expression)
  return ⟨expression, expression.toList.head? == some '/', steps⟩

/-- The path `/xs:schema`. -/
def schemaRoot : Query :=
  ⟨"/xs:schema", true, [⟨.child, .name (some Bindings.reservedPrefix) "schema"⟩]⟩

end SchemaFold.Path
