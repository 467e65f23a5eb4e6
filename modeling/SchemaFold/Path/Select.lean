import SchemaFold.Path.Query
import SchemaFold.Xml.Place
/-!
Following a path through a document.

* `Match`: what a path leads to, a node or an attribute;
* `NodeTest.keepsNode`, `NodeTest.keepsAttribute`: what a test keeps, its prefix resolved;
* `Step.places`: where one step leads from a place;
* `Query.select`: all that a path leads to, step by step, in order and with repetitions.
-/

namespace SchemaFold.Path

open Xml (Attribute Place)

/-- What a path leads to: a place, or attribute number `position` of one. -/
inductive Match
  | node (place : Place)
  | attribute (owner : Place) (position : Nat) (found : Attribute)
  deriving DecidableEq, Repr

namespace Match

/-- The place, of nodes only. -/
def place? : Match → Option Place
  | .node place => some place
  | .attribute .. => none

/-- The expanded name of an element or attribute. -/
def name? : Match → Option ExpandedName
  | .node place => place.name?
  | .attribute _ _ a => some a.name

/-- The local name; empty for what has no name. -/
def localName : Match → String
  | .node place => place.localName
  | .attribute _ _ a => a.name.localName

/-- The value of an attribute, or the text of a node. -/
def value? : Match → Option String
  | .node (.child _ _ item) => item.text?
  | .node (.top _) => none
  | .attribute _ _ a => some a.value

end Match

namespace NodeTest

/-- The namespace that a prefix of the test stands for. -/
def uriOf (bindings : Bindings) (pfx : Option String) : Option String := pfx.bind bindings.uri?

/-- The test keeps elements of this name. -/
def keepsName (bindings : Bindings) (test : NodeTest) (expanded : ExpandedName) : Bool :=
  match test with
  | .any => true
  | .anyIn pfx => expanded.uri == bindings.uri? pfx
  | .name pfx localName => expanded == ⟨uriOf bindings pfx, localName⟩
  | .text => false
  | .node => true

/-- The test keeps this place. -/
def keepsNode (bindings : Bindings) (test : NodeTest) (place : Place) : Bool :=
  match test, place with
  | .node, _ => true
  | .text, .child _ _ (.text ..) => true
  | .text, _ => false
  | test, place =>
    match place.name? with
    | some expanded => test.keepsName bindings expanded
    | none => false

/-- The test keeps this attribute. -/
def keepsAttribute (bindings : Bindings) (test : NodeTest) (a : Attribute) : Bool :=
  test.keepsName bindings a.name

end NodeTest

namespace Step

/-- Where an axis leads, attributes apart. -/
def axisPlaces (axis : Axis) (place : Place) : List Place :=
  match axis with
  | .child => place.children
  | .descendantOrSelf => place.descendantsOrSelf
  | .self => [place]
  | .parent => place.parent?.toList
  | .attribute => []

/-- Where a step leads from a place, attributes apart. -/
def places (bindings : Bindings) (step : Step) (place : Place) : List Place :=
  (axisPlaces step.axis place).filter (step.test.keepsNode bindings)

/-- The attributes of a place that a step leads to. -/
def attributes (bindings : Bindings) (step : Step) (place : Place) : List Match :=
  (place.attributes.zipIdx.filter (fun a => step.test.keepsAttribute bindings a.1)).map
    (fun a => .attribute place a.2 a.1)

end Step

namespace Query

/-- What the steps lead to from a place. Attributes can be reached by the last step only. -/
def follow (bindings : Bindings) : List Step → Place → List Match
  | [], place => [.node place]
  | [⟨.attribute, test⟩], place => Step.attributes bindings ⟨.attribute, test⟩ place
  | step :: steps, place => (step.places bindings place).flatMap (follow bindings steps)

/-- What a path leads to from a place. -/
def select (query : Query) (bindings : Bindings) (place : Place) : List Match :=
  follow bindings query.steps (if query.isAbsolute then place.origin else place)

end Query

/-- What a written path leads to from a place. -/
def select (bindings : Bindings) (place : Place) (path : String) : Except Fault (List Match) :=
  (Query.parse path).map (fun query => query.select bindings place)

end SchemaFold.Path
