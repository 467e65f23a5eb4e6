import SchemaFold.Xml.Document
import SchemaFold.Xml.Reference
import SchemaFold.Xml.Token
/-!
Building a document from tokens.

* `Scope`: the namespace declarations that hold at an element, the inner ones first;
* `Assembly`: the elements that are open, innermost first, and what has been read of each;
* `Assembly.content`: goes through tokens, expanding the entities in their text;
* `Assembly.document`: the document, once all elements are closed.

An entity's text may hold whole elements, and may even open one that is closed outside, so elements
are matched here, by the names of their tags, and not where the tokens are read.
-/

namespace SchemaFold.Xml

open Text (Position)

/-- Prefixes and their URIs, the empty prefix for the default namespace. The first entry for a
prefix counts. -/
abbrev Scope := Keyed String

/-- The namespace of the prefix `xml`, which is never declared. -/
def xmlUri : String := "http://www.w3.org/XML/1998/namespace"

/-- The namespace of declarations, to which nothing may be bound. -/
def xmlnsUri : String := "http://www.w3.org/2000/xmlns/"

namespace Scope

/-- The namespace of a prefix. Without a prefix and a default there is none. -/
def resolve (scope : Scope) (pfx : String) (found : Position) : Except Fault (Option String) :=
  match Keyed.get? pfx scope with
  | some uri => .ok (some uri)
  | none => if pfx.isEmpty then .ok none else .error (.unknownPrefix pfx found)

/-- The namespace of an attribute: none without a prefix, and that of `xml` is fixed. -/
def resolveAttribute (scope : Scope) (pfx : String) (found : Position) :
    Except Fault (Option String) :=
  if pfx = "xml" then .ok (some xmlUri)
  else if pfx.isEmpty then .ok none
  else scope.resolve pfx found

end Scope

/-- An attribute whose namespace is not yet known. -/
structure PendingAttribute where
  name : WrittenName
  value : String
  found : Position

/-- Expands the names of attributes in order, given those `resolved` before in reverse. No two may
have the same expanded name. -/
def resolveAttributes (scope : Scope) :
    (resolved : List Attribute) → List PendingAttribute → Except Fault (List Attribute)
  | resolved, [] => .ok resolved.reverse
  | resolved, pending :: rest => do
    let uri ← scope.resolveAttribute pending.name.pfx pending.found
    let name : ExpandedName := ⟨uri, pending.name.localName⟩
    if resolved.any (fun a => a.name == name) then
      throw (.repeatedAttribute pending.name.localName pending.found)
    resolveAttributes scope (⟨name, pending.value⟩ :: resolved) rest

/-- An element that is open: its tag as written and as understood, and its nodes, the latest first.
-/
structure OpenElement where
  written : WrittenName
  start : StartTag
  scope : Scope
  nodes : List Node

/-- A document in the making. `tag` is the start tag being read, whose attributes and declarations
are `attributes` and `declared`; `count` is the number of references that lead on from one of the
document. The attributes are kept with the latest first. -/
structure Assembly where
  opened : List OpenElement
  prolog : List Misc
  root : Option (StartTag × Content)
  epilog : List Misc
  tag : Option (WrittenName × Position)
  attributes : List PendingAttribute
  declared : Scope
  count : Nat

namespace Assembly

/-- Nothing has been read. -/
def start : Assembly := ⟨[], [], none, [], none, [], [], 0⟩

/-- Adds what may stand beside the root element. -/
def addMisc (a : Assembly) (misc : Misc) : Assembly :=
  match a.opened, a.root with
  | element :: outer, _ =>
    { a with opened := { element with nodes := misc.node :: element.nodes } :: outer }
  | [], none => { a with prolog := misc :: a.prolog }
  | [], some _ => { a with epilog := misc :: a.epilog }

/-- Adds text to the innermost open element, joining it to text just before. -/
def addText (a : Assembly) (value : String) (found : Position) : Except Fault Assembly :=
  match a.opened with
  | [] => .error (.unknownToken found)
  | element :: outer =>
    let nodes := match element.nodes with
      | .text before position :: nodes => .text (before ++ value) position :: nodes
      | nodes => .text value found :: nodes
    .ok { a with opened := { element with nodes } :: outer }

/-- Adds a complete element, which is the root element if none is open. -/
def addElement (a : Assembly) (start : StartTag) (inside : Content) : Except Fault Assembly :=
  match a.opened, a.root with
  | element :: outer, _ =>
    let nodes := Node.element start inside :: element.nodes
    .ok { a with opened := { element with nodes } :: outer }
  | [], none => .ok { a with root := some (start, inside) }
  | [], some _ => .error (.unknownToken start.position)

/-- The declarations that hold outside the tag being read. -/
def outerScope (a : Assembly) : Scope :=
  match a.opened with
  | element :: _ => element.scope
  | [] => []

/-- Takes a namespace declaration for a prefix. -/
def declarePrefix (a : Assembly) (pfx uri : String) (found : Position) : Except Fault Assembly :=
  if uri = xmlnsUri then .error (.xmlnsUri found)
  else if pfx = "xml" && uri != xmlUri then .error (.xmlPrefixUri found)
  else if pfx != "xml" && uri = xmlUri then .error (.xmlUri found)
  else if (Keyed.get? pfx a.declared).isSome then .error (.repeatedNamespace pfx found)
  else if uri = xmlUri then .ok a
  else .ok { a with declared := a.declared ++ [(pfx, uri)] }

/-- Takes a declaration of the default namespace. -/
def declareDefault (a : Assembly) (uri : String) (found : Position) : Except Fault Assembly :=
  if uri = xmlUri then .error (.xmlUri found)
  else if uri = xmlnsUri then .error (.xmlnsUri found)
  else .ok { a with declared := a.declared ++ [("", uri)] }

/-- Takes an attribute of the tag being read, or a declaration in the form of one. -/
def addAttribute (a : Assembly) (name : WrittenName) (value : String) (found : Position) :
    Except Fault Assembly :=
  if name.pfx = "xmlns" then a.declarePrefix name.localName value found
  else if name.localName = "xmlns" then a.declareDefault value found
  else .ok { a with attributes := ⟨name, value, found⟩ :: a.attributes }

/-- The start tag that has been read, its names expanded: attributes first, then the element's own.
-/
def finishTag (a : Assembly) (written : WrittenName) (found : Position) :
    Except Fault (StartTag × Scope) := do
  let scope := a.declared ++ a.outerScope
  let attributes ← resolveAttributes scope [] a.attributes.reverse
  let afterLess : Position := ⟨found.line, found.column + 1⟩
  let uri ← scope.resolve written.pfx afterLess
  return (⟨⟨uri, written.localName⟩, attributes, found⟩, scope)

/-- Ends a start tag: opens the element, or adds it if it is empty. -/
def endStart (a : Assembly) (isEmpty : Bool) : Except Fault Assembly := do
  match a.tag with
  | none => return a
  | some (written, found) =>
    let (start, scope) ← a.finishTag written found
    let a := { a with attributes := [], declared := [] }
    if isEmpty then a.addElement start .empty
    else if a.opened.isEmpty && a.root.isSome then throw (.unknownToken found)
    else return { a with opened := ⟨written, start, scope, []⟩ :: a.opened }

/-- Closes the innermost open element, whose tag has to be written the same way. -/
def close (a : Assembly) (name : WrittenName) (found : Position) : Except Fault Assembly := do
  if a.tag.isNone then throw (.entityCloseTag found)
  discard (resolveAttributes (a.declared ++ a.outerScope) [] a.attributes.reverse)
  match a.opened with
  | [] => throw (.entityCloseTag found)
  | element :: outer =>
    if name ≠ element.written then
      throw (.closeTag element.written.text name.text found)
    { a with opened := outer, attributes := [], declared := [] }.addElement
      element.start (Content.ofNodes element.nodes.reverse)

/-- Writes a character of text, in reverse before `taken`. A carriage return is kept until the next
character shows whether a line feed follows; either way the two become one line feed. -/
def pushText (c : Char) (isLast : Bool) (taken : List Char) : List Char :=
  let written := if isLast && c = '\r' then '\n' else c
  match taken with
  | '\r' :: before =>
    if c = '\n' then '\n' :: before else written :: '\n' :: before
  | _ => written :: taken

/-- Line ends as they are in a section without markup. -/
def sectionText : (taken : List Char) → List Char → List Char
  | taken, [] => taken.reverse
  | taken, [c] => (pushText c true taken).reverse
  | taken, c :: cs => sectionText (pushText c false taken) cs

/-- Adds the text collected so far, if there is any. -/
def flush (a : Assembly) (taken : List Char) (found : Position) : Except Fault Assembly :=
  if taken.isEmpty then .ok a else a.addText (String.ofList taken.reverse) found

/-- What the text of an entity adds, given the position after the reference to it and what has been
read before. -/
abbrev Insertion := Cursor → (after : Position) → (before : Except Fault Assembly) →
  Except Fault Assembly

/-- Adds the pieces of a run of text that begins at `found`. A character that the document gives by
a reference is kept as it is, and so is the one after it (`keepNext`). -/
def addPieces (room : Nat) (entity : Insertion) (found : Position) :
    Pieces → (keepNext : Bool) → (taken : List Char) → Assembly → Except Fault Assembly
  | .done, _, taken, a => a.flush taken found
  | .fault cause, _, _, _ => .error cause
  | .next (.literal c) more, keepNext, taken, a =>
    addPieces room entity found more false
      (if keepNext then c :: taken else pushText c more.atEnd taken) a
  | .next (.given c _) more, keepNext, taken, a =>
    if room = Expansion.maxDepth then addPieces room entity found more true (c :: taken) a
    else addPieces room entity found more keepNext (pushText c more.atEnd taken) a
  | .next (.entity value after) more, _, taken, a => do
    addPieces room entity found more false [] (← entity value after (a.flush taken found))

/-- Goes through tokens where `room` levels of entities are left; `entity` says what these add. -/
def addTokens (entities : Entities) (room : Nat) (entity : Insertion) :
    Tokens → Assembly → Except Fault (Assembly × Cursor)
  | .done left, a => .ok (a, left)
  | .fault cause, _ => .error cause
  | .next (.start name found) more, a =>
    if name.pfx = "xmlns" then .error (.xmlnsPrefix ⟨found.line, found.column + 1⟩)
    else addTokens entities room entity more { a with tag := some (name, found) }
  | .next (.attribute name value found) more, a => do
    let (value, count) ← valueOf entities room a.count value
    addTokens entities room entity more (← { a with count }.addAttribute name value found)
  | .next (.startEnd isEmpty) more, a => do
    addTokens entities room entity more (← a.endStart isEmpty)
  | .next (.close name found) more, a => do
    addTokens entities room entity more (← a.close name found)
  | .next (.text run) more, a => do
    let a ←
      if run.rest.any (fun c => c = '&' || c = '\r') then
        addPieces room entity run.position (.ofCursor entities run) false [] a
      else a.addText (String.ofList run.rest) run.position
    addTokens entities room entity more a
  | .next (.cdata value found) more, a => do
    addTokens entities room entity more (← a.addText (String.ofList (sectionText [] value)) found)
  | .next (.comment value found) more, a =>
    addTokens entities room entity more (a.addMisc (.comment value found))
  | .next (.instruction found) more, a =>
    addTokens entities room entity more (a.addMisc (.instruction found))

/-- Goes through tokens, with `room` levels of entities left, and says what text they leave. -/
def content (entities : Entities) :
    (room : Nat) → Tokens → Assembly → Except Fault (Assembly × Cursor)
  | 0 => addTokens entities 0 (fun _ after _ => .error (.referenceLoop after))
  | room + 1 => addTokens entities (room + 1) (fun value after before => do
    let a ← before
    let count ← Expansion.enter (room + 1) a.count after
    let (b, _) ← content entities room (.ofEntity value) { a with count, tag := none }
    return { b with tag := a.tag, count := Expansion.leave (room + 1) b.count })

/-- The document that has been read, if it has a root element and all elements are closed. -/
def document (a : Assembly) : Except Fault Document :=
  match a.opened, a.root with
  | _ :: _, _ => .error .unclosedRoot
  | [], none => .error .noRoot
  | [], some (root, inside) => .ok ⟨a.prolog.reverse, root, inside, a.epilog.reverse⟩

end Assembly

end SchemaFold.Xml
