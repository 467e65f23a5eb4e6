import SchemaFold.Rule.Standard
/-!
Small schemas, for showing theorems at work on them.
-/

namespace SchemaFold.Sample

open Xml (Attribute Content Document Place)

/-- Attributes without a namespace, from names and values. -/
def attributes (entries : List (String × String)) : List Attribute :=
  entries.map (fun entry => ⟨⟨none, entry.1⟩, entry.2⟩)

/-- An element of XML Schema on some line, with what comes after it. -/
def element (localName : String) (line : Nat) (entries : List (String × String))
    (inside after : Content) : Content :=
  .element ⟨⟨some xsdNamespace, localName⟩, attributes entries, ⟨line, 1⟩⟩ inside after

/-- The root element of a schema document with this inside. -/
def schema (inside : Content) : Place :=
  Document.rootPlace ⟨[], ⟨⟨some xsdNamespace, "schema"⟩, [], ⟨1, 1⟩⟩, inside, []⟩

/-- The standard options with other policies. -/
def options (duplicateKeys : DuplicateKeys) (missingIdentifier : MissingIdentifier) : Options :=
  ⟨duplicateKeys, missingIdentifier, .standard, .standard⟩

end SchemaFold.Sample
