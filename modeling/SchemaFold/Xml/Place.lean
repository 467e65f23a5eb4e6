import SchemaFold.Xml.Document
/-!
Places: a node together with the way to it from its document, so that one can look up as well as
down.

* `Place.children`, `Place.parent?`, `Place.descendantsOrSelf`: the neighbours of a place, in
  document order;
* `Place.index`: the numbers of the children on the way; document order is their lexicographic
  order;
* `Document.places`: every place of a document, in document order.
-/

namespace SchemaFold.Xml

/-- The document itself, or child number `number` of a place. -/
inductive Place
  | top (document : Document)
  | child (parent : Place) (number : Nat) (node : Node)
  deriving DecidableEq, Repr

namespace Place

/-- The start tag, of elements only. -/
def start? : Place → Option StartTag
  | .top _ => none
  | .child _ _ node => node.start?

/-- The expanded name, of elements only. -/
def name? (place : Place) : Option ExpandedName := place.start?.map (·.name)

/-- The attributes, of which only elements have any. -/
def attributes (place : Place) : List Attribute :=
  match place.start? with
  | some start => start.attributes
  | none => []

/-- The local name of an element; empty for other places. -/
def localName (place : Place) : String :=
  match place.name? with
  | some name => name.localName
  | none => ""

/-- The value of an attribute without a namespace. -/
def attribute? (place : Place) (localName : String) : Option String :=
  place.start?.bind (fun start => start.attribute? localName)

/-- Where a place begins in the text. -/
def location : Place → Text.Position
  | .top _ => Text.Position.start
  | .child _ _ node => node.position

/-- What is inside the document or an element. -/
def inside : Place → Content
  | .top document => document.content
  | .child _ _ node => node.inside

/-- The place that this one is a child of. -/
def parent? : Place → Option Place
  | .top _ => none
  | .child parent _ _ => some parent

/-- The document that a place belongs to, as a place. -/
def origin : Place → Place
  | .top document => .top document
  | .child parent _ _ => parent.origin

/-- The numbers of the children on the way down from the document. -/
def index : Place → List Nat
  | .top _ => []
  | .child parent number _ => parent.index ++ [number]

/-- The places of a content whose first node is child number `number` of `parent`. -/
def childrenFrom (parent : Place) : Nat → Content → List Place
  | _, .empty => []
  | number, .element start inside after =>
    .child parent number (.element start inside) :: childrenFrom parent (number + 1) after
  | number, .text value position after =>
    .child parent number (.text value position) :: childrenFrom parent (number + 1) after
  | number, .comment value position after =>
    .child parent number (.comment value position) :: childrenFrom parent (number + 1) after
  | number, .instruction position after =>
    .child parent number (.instruction position) :: childrenFrom parent (number + 1) after

/-- The children of a place, in order. -/
def children (place : Place) : List Place := childrenFrom place 0 place.inside

/-- As `childrenFrom`, each place followed by those below it. -/
def descendantsFrom (parent : Place) : Nat → Content → List Place
  | _, .empty => []
  | number, .element start inside after =>
    .child parent number (.element start inside) ::
      (descendantsFrom (.child parent number (.element start inside)) 0 inside ++
        descendantsFrom parent (number + 1) after)
  | number, .text value position after =>
    .child parent number (.text value position) :: descendantsFrom parent (number + 1) after
  | number, .comment value position after =>
    .child parent number (.comment value position) :: descendantsFrom parent (number + 1) after
  | number, .instruction position after =>
    .child parent number (.instruction position) :: descendantsFrom parent (number + 1) after

/-- A place and all places below it, in document order. -/
def descendantsOrSelf (place : Place) : List Place :=
  place :: descendantsFrom place 0 place.inside

end Place

/-- Every place of a document, the document itself first. -/
def Document.places (document : Document) : List Place :=
  (Place.top document).descendantsOrSelf

/-- The place of the root element. -/
def Document.rootPlace (document : Document) : Place :=
  .child (.top document) document.prolog.length (.element document.root document.inside)

end SchemaFold.Xml
