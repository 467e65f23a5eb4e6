/-!
The kinds of elements that a schema is written with.

* `ElementKind`: the kinds;
* `ElementKind.every`: every kind once, in a fixed order;
* `ElementKind.localName`, `ElementKind.ofLocalName?`: the names of their elements.
-/

namespace SchemaFold

/-- A kind of element in the namespace of XML Schema. -/
inductive ElementKind
  | schema
  | element
  | attribute
  | attributeGroup
  | group
  | complexType
  | simpleType
  | simpleContent
  | complexContent
  | extension
  | restriction
  | list
  | union
  | sequence
  | choice
  | all
  | any
  | anyAttribute
  | annotations
  | documentation
  | appInfo
  | import
  | include
  | redefine
  | notations
  | unique
  | key
  | keyRef
  | selector
  | field
  | enumeration
  | length
  | minLength
  | maxLength
  | pattern
  | whiteSpace
  | minInclusive
  | maxInclusive
  | minExclusive
  | maxExclusive
  | totalDigits
  | fractionDigits
  deriving DecidableEq, Repr

namespace ElementKind

/-- Every kind once. -/
def every : List ElementKind :=
  [.schema, .element, .attribute, .attributeGroup, .group, .complexType, .simpleType,
   .simpleContent, .complexContent, .extension, .restriction, .list, .union, .sequence, .choice,
   .all, .any, .anyAttribute, .annotations, .documentation, .appInfo, .import, .include, .redefine,
   .notations, .unique, .key, .keyRef, .selector, .field, .enumeration, .length, .minLength,
   .maxLength, .pattern, .whiteSpace, .minInclusive, .maxInclusive, .minExclusive, .maxExclusive,
   .totalDigits, .fractionDigits]

/-- The name of the elements of a kind. -/
def localName : ElementKind → String
  | .schema => "schema"
  | .element => "element"
  | .attribute => "attribute"
  | .attributeGroup => "attributeGroup"
  | .group => "group"
  | .complexType => "complexType"
  | .simpleType => "simpleType"
  | .simpleContent => "simpleContent"
  | .complexContent => "complexContent"
  | .extension => "extension"
  | .restriction => "restriction"
  | .list => "list"
  | .union => "union"
  | .sequence => "sequence"
  | .choice => "choice"
  | .all => "all"
  | .any => "any"
  | .anyAttribute => "anyAttribute"
  | .annotations => "annotation"
  | .documentation => "documentation"
  | .appInfo => "appinfo"
  | .import => "import"
  | .include => "include"
  | .redefine => "redefine"
  | .notations => "notation"
  | .unique => "unique"
  | .key => "key"
  | .keyRef => "keyref"
  | .selector => "selector"
  | .field => "field"
  | .enumeration => "enumeration"
  | .length => "length"
  | .minLength => "minLength"
  | .maxLength => "maxLength"
  | .pattern => "pattern"
  | .whiteSpace => "whiteSpace"
  | .minInclusive => "minInclusive"
  | .maxInclusive => "maxInclusive"
  | .minExclusive => "minExclusive"
  | .maxExclusive => "maxExclusive"
  | .totalDigits => "totalDigits"
  | .fractionDigits => "fractionDigits"

/-- The kind of the elements with a name. -/
def ofLocalName? (name : String) : Option ElementKind :=
  every.find? (fun kind => kind.localName == name)

/-- The kinds whose elements bound the values of a type. -/
def facets : List ElementKind :=
  [.length, .minLength, .maxLength, .pattern, .whiteSpace, .minInclusive, .maxInclusive,
   .minExclusive, .maxExclusive, .totalDigits, .fractionDigits]

end ElementKind

end SchemaFold
