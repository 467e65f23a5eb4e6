import SchemaFold.Name.Basic
import SchemaFold.Text.Blank
/-!
The steps of a path: an axis, which says where to go, and a test, which says what to keep.

* `NodeTest.parse`, `Step.parse`: the written forms, long (`child::a`) and short (`a`, `@a`, `.`);
* `Step.child`: the child step to a plain name;
* `Fault`: what can be wrong with a path expression, and how it is said.

Prefixes stay as they are written; they get their meaning when a path is followed.
-/

namespace SchemaFold.Path

/-- Why a text is not a path. -/
inductive Fault
  | emptyPath
  | attributeNotLast (path : String)
  | predicate (step : String)
  | textOfAttributes (step : String)
  | invalidPrefix (test : String)
  | invalidName (test : String)
  deriving DecidableEq, Repr

/-- The wording of a fault. -/
def Fault.message : Fault → String
  | .emptyPath => "empty path expression"
  | .attributeNotLast path => "attribute step must be the last step in '" ++ path ++ "'"
  | .predicate step => "predicates are not supported: '" ++ step ++ "'"
  | .textOfAttributes step => "text() on the attribute axis: '" ++ step ++ "'"
  | .invalidPrefix test => "invalid prefix in '" ++ test ++ "'"
  | .invalidName test => "invalid name test '" ++ test ++ "'"

/-- Where a step leads. -/
inductive Axis
  | child
  | attribute
  | descendantOrSelf
  | self
  | parent
  deriving DecidableEq, Repr

/-- What a step keeps. -/
inductive NodeTest
  | any
  | anyIn (pfx : String)
  | name (pfx : Option String) (localName : String)
  | text
  | node
  deriving DecidableEq, Repr

namespace NodeTest

/-- A prefix has the syntax of a plain name. -/
def checkPrefix (test : String) : Option String → Except Fault Unit
  | none => .ok ()
  | some pfx => if Name.isNCName pfx then .ok () else .error (.invalidPrefix test)

/-- The test for a name, or for all names of a namespace. -/
def parseName (test : String) : Except Fault NodeTest := do
  let (pfx, localName) := Name.splitQName test
  checkPrefix test pfx
  match pfx with
  | some p =>
    if localName = "*" then return .anyIn p
    else if Name.isNCName localName then return .name (some p) localName
    else throw (.invalidName test)
  | none =>
    if Name.isNCName localName then return .name none localName else throw (.invalidName test)

/-- A test as it is written. -/
def parse (test : String) : Except Fault NodeTest :=
  if test = "*" then .ok .any
  else if test = "text()" then .ok .text
  else if test = "node()" then .ok .node
  else parseName test

end NodeTest

/-- One step of a path. -/
structure Step where
  axis : Axis
  test : NodeTest
  deriving DecidableEq, Repr

namespace Step

/-- The step to the children named `localName` in no namespace. -/
def child (localName : String) : Step := ⟨.child, .name none localName⟩

/-- All elements, or all attributes. -/
def isWildcard (step : Step) : Bool := step.test == .any

/-- The axis that a step begins with, and its test. -/
def axisOf (step : List Char) : Axis × List Char :=
  match step with
  | '@' :: test => (.attribute, test)
  | _ =>
    match Text.dropPrefix? "attribute::".toList step with
    | some test => (.attribute, test)
    | none =>
      match Text.dropPrefix? "child::".toList step with
      | some test => (.child, test)
      | none => (.child, step)

/-- A step that is none of the abbreviations for whole steps. -/
def parseFull (step : String) : Except Fault Step := do
  let (axis, test) := axisOf step.toList
  if test.contains '[' then throw (.predicate step)
  let test ← NodeTest.parse (String.ofList test)
  if axis = .attribute && test = .text then throw (.textOfAttributes step)
  return ⟨axis, test⟩

/-- A step as it is written, with white space around it. -/
def parse (written : String) : Except Fault Step :=
  let step := Text.trim written
  if step = "." || step = "self::node()" then .ok ⟨.self, .node⟩
  else if step = ".." || step = "parent::node()" then .ok ⟨.parent, .node⟩
  else if step = ".//" then .ok ⟨.descendantOrSelf, .node⟩
  else parseFull step

end Step

end SchemaFold.Path
