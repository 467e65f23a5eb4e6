import SchemaFold.Name.Bindings
import SchemaFold.Text.Blank
/-!
The built-in datatypes of XML Schema.

* `Datatype`: a type, what it is derived from, how it treats white space and which facets it admits;
* `Datatype.all`, `Datatype.lookup?`: the types, and the one with a name;
* `Datatype.derivesFrom`: derivation, of any number of steps;
* `Datatype.resolve?`: the type that a reference in a schema stands for.
-/

namespace SchemaFold

/-- How a type comes about. -/
inductive Category
  | primitive
  | derived
  | special
  deriving DecidableEq, Repr

/-- The name of a category. -/
def Category.text : Category → String
  | .primitive => "Primitive"
  | .derived => "Derived"
  | .special => "Special"

/-- What becomes of white space in a value. -/
inductive WhiteSpace
  | preserve
  | replace
  | collapse
  deriving DecidableEq, Repr

/-- The name of a treatment. -/
def WhiteSpace.text : WhiteSpace → String
  | .preserve => "preserve"
  | .replace => "replace"
  | .collapse => "collapse"

/-- A built-in type. -/
structure Datatype where
  name : String
  category : Category
  base : Option String
  whiteSpace : WhiteSpace
  facets : List String
  deriving DecidableEq, Repr

namespace Datatype

/-- The facets of strings, and of lists. -/
def stringFacets : List String :=
  ["length", "minLength", "maxLength", "pattern", "enumeration", "whiteSpace"]

/-- The facets of booleans. -/
def booleanFacets : List String := ["pattern", "whiteSpace"]

/-- The facets of ordered values: floating point numbers, dates and times. -/
def orderedFacets : List String :=
  ["pattern", "enumeration", "whiteSpace", "maxInclusive", "maxExclusive", "minInclusive",
   "minExclusive"]

/-- The facets of decimal numbers. -/
def decimalFacets : List String := ["totalDigits", "fractionDigits"] ++ orderedFacets

/-- A type that is derived from none but the most general ones. -/
def primitive (name : String) (whiteSpace : WhiteSpace) (facets : List String) : Datatype :=
  ⟨name, .primitive, some "anySimpleType", whiteSpace, facets⟩

/-- A type derived from `base`. White space is collapsed. -/
def derived (name base : String) (facets : List String) : Datatype :=
  ⟨name, .derived, some base, .collapse, facets⟩

/-- The built-in types. -/
def all : List Datatype :=
  [⟨"anyType", .special, none, .preserve, []⟩,
   ⟨"anySimpleType", .special, some "anyType", .preserve, []⟩,
   primitive "string" .preserve stringFacets,
   primitive "boolean" .collapse booleanFacets,
   primitive "decimal" .collapse decimalFacets,
   primitive "float" .collapse orderedFacets,
   primitive "double" .collapse orderedFacets,
   primitive "duration" .collapse orderedFacets,
   primitive "dateTime" .collapse orderedFacets,
   primitive "time" .collapse orderedFacets,
   primitive "date" .collapse orderedFacets,
   primitive "gYearMonth" .collapse orderedFacets,
   primitive "gYear" .collapse orderedFacets,
   primitive "gMonthDay" .collapse orderedFacets,
   primitive "gDay" .collapse orderedFacets,
   primitive "gMonth" .collapse orderedFacets,
   primitive "hexBinary" .collapse stringFacets,
   primitive "base64Binary" .collapse stringFacets,
   primitive "anyURI" .collapse stringFacets,
   primitive "QName" .collapse stringFacets,
   primitive "NOTATION" .collapse stringFacets,
   ⟨"normalizedString", .derived, some "string", .replace, stringFacets⟩,
   derived "token" "normalizedString" stringFacets,
   derived "language" "token" stringFacets,
   derived "NMTOKEN" "token" stringFacets,
   derived "NMTOKENS" "NMTOKEN" stringFacets,
   derived "Name" "token" stringFacets,
   derived "NCName" "Name" stringFacets,
   derived "ID" "NCName" stringFacets,
   derived "IDREF" "NCName" stringFacets,
   derived "IDREFS" "IDREF" stringFacets,
   derived "ENTITY" "NCName" stringFacets,
   derived "ENTITIES" "ENTITY" stringFacets,
   derived "integer" "decimal" decimalFacets,
   derived "nonPositiveInteger" "integer" decimalFacets,
   derived "negativeInteger" "nonPositiveInteger" decimalFacets,
   derived "long" "integer" decimalFacets,
   derived "int" "long" decimalFacets,
   derived "short" "int" decimalFacets,
   derived "byte" "short" decimalFacets,
   derived "nonNegativeInteger" "integer" decimalFacets,
   derived "unsignedLong" "nonNegativeInteger" decimalFacets,
   derived "unsignedInt" "unsignedLong" decimalFacets,
   derived "unsignedShort" "unsignedInt" decimalFacets,
   derived "unsignedByte" "unsignedShort" decimalFacets,
   derived "positiveInteger" "nonNegativeInteger" decimalFacets]

/-- The type with a name. -/
def lookup? (name : String) : Option Datatype := all.find? (fun type => type.name == name)

/-- The type admits a facet. -/
def admits (type : Datatype) (facet : String) : Bool := type.facets.contains facet

/-- The type is `ancestor` or derived from it in at most `steps` steps. -/
def derivesWithin : (steps : Nat) → (ancestor : String) → Datatype → Bool
  | 0, ancestor, type => type.name == ancestor
  | steps + 1, ancestor, type =>
    type.name == ancestor ||
      (match type.base.bind lookup? with
        | some base => derivesWithin steps ancestor base
        | none => false)

/-- The type is `ancestor` or derived from it. No chain of bases is longer than the list of types.
-/
def derivesFrom (type : Datatype) (ancestor : String) : Bool :=
  derivesWithin all.length ancestor type

/-- A type of numbers. -/
def isNumeric (type : Datatype) : Bool :=
  type.name == "float" || type.name == "double" || type.derivesFrom "decimal"

/-- A type of strings. -/
def isString (type : Datatype) : Bool := type.derivesFrom "string"

/-- A type of dates, times or durations. -/
def isDateTime (type : Datatype) : Bool :=
  ["duration", "dateTime", "time", "date", "gYearMonth", "gYear", "gMonthDay", "gDay",
   "gMonth"].contains type.name

/-- The type that a reference stands for, with white space around it. -/
def resolve? (reference : String) (bindings : Bindings) : Option Datatype :=
  let name := bindings.resolve (Text.trim reference)
  if name.uri = some xsdNamespace then lookup? name.localName else none

end Datatype

end SchemaFold
