import SchemaFold.Rule.Table
import SchemaFold.Text.Blank
/-!
The built-in rules.

* `StandardRule`: the rules by what they do, and `StandardRule.rule`, how they do it;
* `StandardRule.ofKind?`: which of them belongs to which kind;
* `RuleTable.standard`: the table of them all.

Named constructs get a context of their own under their name or reference. A type without either is
folded into the element or attribute that it stands in. Extensions and restrictions open a context
of properties or facets, facets and documentation write a text, and the two kinds of content model
are noted once their element has been folded.
-/

namespace SchemaFold

open Xml (Place)

/-- The rules, by what they do. -/
inductive StandardRule
  | nameThenRef
  | refThenName
  | typeDefinition
  | extension
  | restriction
  | documentation
  | enumeration
  | facet
  | simpleContent
  | complexContent
  deriving DecidableEq, Repr

/-- The key of the context of an extension. -/
def propertiesKey : String := "properties"

/-- The key of the context of a restriction. -/
def facetsKey : String := "facets"

/-- The key of the text of a documentation. -/
def commentKey : String := "comment"

/-- The key of the type that an extension or restriction starts from. -/
def baseKey : String := "base"

/-- The key of the kind of content model. -/
def contentModelKey : String := "contentModel"

/-- The first of some attributes that is there and not blank. -/
def identifier? (place : Place) (order : List String) : Option String :=
  order.findSome? (fun name => Text.nonBlank? (place.attribute? name))

/-- A context of its own under the first identifier that is there. -/
def identify (options : Options) (place : Place) (order : List String) : Act Descent :=
  match identifier? place order with
  | some key => .done (.nested key)
  | none =>
    match options.missingIdentifier with
    | .reject => .fail (.missingIdentifier place.localName place.location)
    | .skip => ⟨[.unnamedSkipped place.localName place.location], .ok .skip⟩

/-- The place is inside an element or attribute declaration, of the namespace that it has itself. -/
def isInDeclaration (place : Place) : Bool :=
  match place.parent?.bind Place.name? with
  | some parent =>
    (parent.localName == "element" || parent.localName == "attribute") &&
      parent.uri == (place.name?.bind (·.uri))
  | none => false

/-- A context under `key`, and the base type as a text beside it. -/
def derivation (place : Place) (key : String) : Descent :=
  match place.attribute? baseKey with
  | some base => (Descent.nested key).withScalar baseKey base
  | none => .nested key

namespace StandardRule

/-- The attributes that identify a construct. -/
def nameAndRef : List String := ["name", "ref"]

/-- The hook before, of the rules that have one. -/
def before? : StandardRule → Option BeforeHook
  | .nameThenRef => some (fun options _ place => identify options place ["name", "ref"])
  | .refThenName => some (fun options _ place => identify options place ["ref", "name"])
  | .typeDefinition => some (fun options _ place =>
      if (identifier? place nameAndRef).isNone && isInDeclaration place then .done .current
      else identify options place ["name", "ref"])
  | .extension => some (fun _ _ place => .done (derivation place propertiesKey))
  | .restriction => some (fun _ _ place => .done (derivation place facetsKey))
  | .documentation => some (fun _ _ place =>
      match place.inside.firstText? with
      | some text => .done (Descent.current.withScalar commentKey (Text.trim text))
      | none => .done .current)
  | .enumeration => some (fun _ _ place =>
      match place.attribute? "value" with
      | some value => .done (.nested value)
      | none => .done .current)
  | .facet => some (fun _ _ place =>
      match place.attribute? "value" with
      | some value => .done (Descent.current.withScalar place.localName value)
      | none => .done .current)
  | .simpleContent | .complexContent => none

/-- The hook after, of the rules that have one. -/
def after? : StandardRule → Option AfterHook
  | .simpleContent => some (fun _ _ _ => .done [(contentModelKey, "simple")])
  | .complexContent => some (fun _ _ _ => .done [(contentModelKey, "complex")])
  | _ => none

/-- The attributes that are not copied. -/
def ignored : StandardRule → List String
  | .nameThenRef | .refThenName | .typeDefinition => nameAndRef
  | .extension | .restriction => [baseKey]
  | .enumeration | .facet => ["value"]
  | .documentation | .simpleContent | .complexContent => []

/-- The rule itself. -/
def rule (standard : StandardRule) : Rule :=
  ⟨standard.before?, standard.after?, standard.ignored⟩

/-- The rule for a kind. -/
def ofKind? (kind : ElementKind) : Option StandardRule :=
  match kind with
  | .element | .group | .attributeGroup => some .nameThenRef
  | .attribute => some .refThenName
  | .complexType | .simpleType => some .typeDefinition
  | .extension => some .extension
  | .restriction => some .restriction
  | .documentation => some .documentation
  | .enumeration => some .enumeration
  | .simpleContent => some .simpleContent
  | .complexContent => some .complexContent
  | kind => if kind ∈ ElementKind.facets then some .facet else none

end StandardRule

namespace RuleTable

/-- A table made of built-in rules only. -/
def ofStandard (choose : ElementKind → Option StandardRule) : RuleTable :=
  ⟨fun kind => (choose kind).map StandardRule.rule⟩

/-- The table of the built-in rules. -/
def standard : RuleTable := ofStandard StandardRule.ofKind?

end RuleTable

end SchemaFold
