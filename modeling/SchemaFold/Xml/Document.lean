import SchemaFold.Name.Basic
import SchemaFold.Text.Position
/-!
XML documents as values.

* `Content`: a sequence of sibling nodes, each element with its own content inside;
* `Node`: one item of such a sequence;
* `Document`: comments and instructions around exactly one root element.

Namespace declarations are no attributes: names are already expanded. Every node keeps the position
it begins at, so that messages can point at it.
-/

namespace SchemaFold.Xml

open Text (Position)

/-- An attribute, with its value after references are expanded. -/
structure Attribute where
  name : ExpandedName
  value : String
  deriving DecidableEq, Repr

/-- What the start tag of an element says, and where it begins. -/
structure StartTag where
  name : ExpandedName
  attributes : List Attribute
  position : Position
  deriving DecidableEq, Repr

/-- The value of the attribute `localName` without a namespace. -/
def StartTag.attribute? (start : StartTag) (localName : String) : Option String :=
  (start.attributes.find? (fun a => a.name == ⟨none, localName⟩)).map (·.value)

/-- Sibling nodes in order. -/
inductive Content
  | empty
  | element (start : StartTag) (inside after : Content)
  | text (value : String) (position : Position) (after : Content)
  | comment (value : String) (position : Position) (after : Content)
  | instruction (position : Position) (after : Content)
  deriving DecidableEq, Repr

/-- One node of a content. -/
inductive Node
  | element (start : StartTag) (inside : Content)
  | text (value : String) (position : Position)
  | comment (value : String) (position : Position)
  | instruction (position : Position)
  deriving DecidableEq, Repr

namespace Content

/-- The nodes of a content, not those inside its elements. -/
def nodes : Content → List Node
  | .empty => []
  | .element start inside after => .element start inside :: after.nodes
  | .text value position after => .text value position :: after.nodes
  | .comment value position after => .comment value position :: after.nodes
  | .instruction position after => .instruction position :: after.nodes

/-- A content from its first node and the rest. -/
def cons : Node → Content → Content
  | .element start inside, after => .element start inside after
  | .text value position, after => .text value position after
  | .comment value position, after => .comment value position after
  | .instruction position, after => .instruction position after

/-- A content from its nodes. -/
def ofNodes (nodes : List Node) : Content := nodes.foldr cons .empty

/-- The value of the first text node. -/
def firstText? : Content → Option String
  | .empty => none
  | .element _ _ after => after.firstText?
  | .text value _ _ => some value
  | .comment _ _ after => after.firstText?
  | .instruction _ after => after.firstText?

end Content

namespace Node

/-- The start tag, of elements only. -/
def start? : Node → Option StartTag
  | .element start _ => some start
  | _ => none

/-- What is inside an element; nothing is inside other nodes. -/
def inside : Node → Content
  | .element _ inside => inside
  | _ => .empty

/-- The text of a node: its own for text and comments, for an element that of its first node if
this is a text. -/
def text? : Node → Option String
  | .element _ (.text value _ _) => some value
  | .text value _ => some value
  | .comment value _ => some value
  | _ => none

/-- Where a node begins. -/
def position : Node → Position
  | .element start _ => start.position
  | .text _ position => position
  | .comment _ position => position
  | .instruction position => position

end Node

/-- What may stand beside the root element. -/
inductive Misc
  | comment (value : String) (position : Position)
  | instruction (position : Position)
  deriving DecidableEq, Repr

/-- The node of a comment or instruction. -/
def Misc.node : Misc → Node
  | .comment value position => .comment value position
  | .instruction position => .instruction position

/-- A document: its root element, with the comments and instructions before and after it. -/
structure Document where
  prolog : List Misc
  root : StartTag
  inside : Content
  epilog : List Misc
  deriving DecidableEq, Repr

/-- The nodes of a document as one content. -/
def Document.content (document : Document) : Content :=
  (document.prolog.map Misc.node).foldr Content.cons
    (.element document.root document.inside (Content.ofNodes (document.epilog.map Misc.node)))

end SchemaFold.Xml
