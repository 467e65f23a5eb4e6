import SchemaFold.Context.Basic
import SchemaFold.Log
import SchemaFold.Name.Bindings
import SchemaFold.Rule.Kind
import SchemaFold.Xml.Place
/-!
Rules: what the fold does at elements of each kind.

* `Options`: the policies and bounds of a fold, shown to every rule;
* `Descent`: the answer of a rule before its element is folded: texts to write, and where the inside
  of the element goes;
* `Rule`: a hook before, a hook after, and attributes that are not copied;
* `RuleTable`: a rule or none for every kind.

Hooks look at a context but never write to it.
-/

namespace SchemaFold

open Xml (Place)

/-- What to do when two constructs have the same key. -/
inductive DuplicateKeys
  | reject
  | lastWins
  deriving DecidableEq, Repr

/-- What to do with a construct that has neither a name nor a reference. -/
inductive MissingIdentifier
  | reject
  | skip
  deriving DecidableEq, Repr

/-- The policies and bounds of a fold. -/
structure Options where
  duplicateKeys : DuplicateKeys
  missingIdentifier : MissingIdentifier
  limits : Limits
  bindings : Bindings
  deriving DecidableEq, Repr

namespace Options

/-- The options that hold unless others are given. -/
def standard : Options := ⟨.reject, .reject, .standard, .standard⟩

/-- Later constructs may replace earlier ones. -/
def replaces (options : Options) : Bool := options.duplicateKeys == .lastWins

end Options

/-- Where the inside of an element goes. -/
inductive Scope
  | current
  | nested (key : String)
  | skip
  deriving DecidableEq, Repr

/-- Texts to write, and where the inside of the element goes. -/
structure Descent where
  scalars : List (String × String)
  scope : Scope
  deriving DecidableEq, Repr

namespace Descent

/-- The inside goes into the context at hand. -/
def current : Descent := ⟨[], .current⟩

/-- The inside goes into a new context under `key`. -/
def nested (key : String) : Descent := ⟨[], .nested key⟩

/-- The element is left out. -/
def skip : Descent := ⟨[], .skip⟩

/-- With one more text. -/
def withScalar (descent : Descent) (key text : String) : Descent :=
  ⟨descent.scalars ++ [(key, text)], descent.scope⟩

end Descent

/-- Asked before an element is folded. -/
abbrev BeforeHook := Options → Context → Place → Act Descent

/-- Asked after an element has been folded, for texts to write. -/
abbrev AfterHook := Options → Context → Place → Act (List (String × String))

/-- What the fold does at an element. -/
structure Rule where
  before : Option BeforeHook
  after : Option AfterHook
  ignored : List String

namespace Rule

/-- A rule that does nothing. -/
def empty : Rule := ⟨none, none, []⟩

/-- A rule with a hook before, which leaves out some attributes. -/
def ofBefore (hook : BeforeHook) (ignored : List String) : Rule := ⟨some hook, none, ignored⟩

/-- A rule with a hook after. -/
def ofAfter (hook : AfterHook) : Rule := ⟨none, some hook, []⟩

end Rule

/-- A rule or none for every kind. -/
structure RuleTable where
  rule? : ElementKind → Option Rule

namespace RuleTable

/-- No rules. -/
def empty : RuleTable := ⟨fun _ => none⟩

/-- With a rule for a kind. -/
def insert (table : RuleTable) (kind : ElementKind) (rule : Rule) : RuleTable :=
  ⟨fun k => if k = kind then some rule else table.rule? k⟩

/-- Without a rule for a kind. -/
def remove (table : RuleTable) (kind : ElementKind) : RuleTable :=
  ⟨fun k => if k = kind then none else table.rule? k⟩

/-- The rule for elements of XML Schema with a local name. -/
def ruleFor? (table : RuleTable) (localName : String) : Option Rule :=
  (ElementKind.ofLocalName? localName).bind table.rule?

/-- The rule for elements with an expanded name: only those of XML Schema have one. -/
def ruleOf? (table : RuleTable) (name : ExpandedName) : Option Rule :=
  if name.uri = some xsdNamespace then table.ruleFor? name.localName else none

/-- The number of kinds with a rule. -/
def size (table : RuleTable) : Nat :=
  ElementKind.every.countP (fun kind => (table.rule? kind).isSome)

end RuleTable

end SchemaFold
