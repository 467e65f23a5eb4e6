import SchemaFold.Xml.Assembly
/-!
Reading a document.

* `Document.read`: a text as a document, or the first fault in it;
* `Scan.declaration`, `Scan.typeDeclaration`: what may come before the root element.

A document type declaration is refused unless it is allowed. Of an allowed one only the texts of
entities are used; the comments and instructions in it count as ones of the document.
-/

namespace SchemaFold.Xml

namespace Scan

/-- Between the parts of the declaration there is white space, unless its end follows. -/
def declarationSpaces : Scan Unit := do
  match (← get).rest with
  | [] => return
  | c :: _ =>
    if isSpace c then spaces
    else if ← looksAt "?>" then return
    else unexpected "a whitespace"

/-- An attribute of the declaration. -/
def declarationItem : Scan Unit := do
  discard writtenName
  equals
  discard attributeValue

/-- The declaration that a text may begin with. -/
def declaration : Scan Unit := do
  skip 5
  declarationSpaces
  if !(← looksAt "version") then string "version"
  declarationItem
  declarationSpaces
  if ← looksAt "encoding" then
    declarationItem
    declarationSpaces
  if ← looksAt "standalone" then declarationItem
  spaces
  string "?>"

/-- Text between quotes, of any characters. -/
def literal : Scan Unit := do
  let mark ← quote
  discard (run (· != mark))
  char mark

/-- The name of a resource, if one is given: `SYSTEM` and a literal, or `PUBLIC` and two. -/
def externalId : Scan Bool := do
  let system ← looksAt "SYSTEM"
  let isPublic ← looksAt "PUBLIC"
  if system || isPublic then
    skip 6
    someSpaces
    literal
    if isPublic then
      someSpaces
      literal
    return true
  else return false

/-- What an entity stands for: a text, or something outside the document. -/
def entityValue (isParameter : Bool) : Scan (Option Cursor) := do
  let c ← peek
  if c = '"' || c = '\'' then
    let mark ← quote
    let here := (← get).position
    let value ← run (· != mark)
    char mark
    return some ⟨here, value⟩
  else if c = 'S' || c = 'P' then
    let here := (← get).position
    if ← externalId then
      if !isParameter then
        spaces
        if ← looksAt "NDATA" then
          skip 5
          someSpaces
          discard nameOrEnd
      return none
    else throw (.externalId here)
  else unexpected "a quote, SYSTEM or PUBLIC"

/-- The declaration of an entity, added to those before it. -/
def entity (entities : Entities) : Scan Entities := do
  skip 8
  someSpaces
  let isParameter ← looksAt "%"
  if isParameter then
    skip 1
    someSpaces
  let key ← name
  someSpaces
  let value ← entityValue isParameter
  spaces
  char '>'
  match value with
  | some text => return entities ++ [(key, text)]
  | none => return entities

/-- A declaration of another kind, up to the first `>`. -/
def otherDeclaration : Scan Bool := do
  discard (run (· != '>'))
  if (← get).atEnd then return false
  skip 1
  return true

/-- What has been read before the root element. -/
abbrev Prolog := Assembly × Entities

/-- The end of the subset, up to and including the `>` of the declaration. -/
def subsetEnd : Scan Unit := do
  skip 1
  spaces
  char '>'

/-- Adds a comment or an instruction. -/
def addItem (a : Assembly) : Token → Assembly
  | .comment value found => a.addMisc (.comment value found)
  | .instruction found => a.addMisc (.instruction found)
  | _ => a

/-- The declarations between brackets, of a type declaration that begins at `start`. Each takes a
character or more, so `fuel` need not exceed the length of the text. -/
def subset (start : Text.Position) : (fuel : Nat) → Prolog → Scan Prolog
  | 0, prolog => return prolog
  | fuel + 1, (a, entities) => do
    if (← get).atEnd then return (a, entities)
    spaces
    if ← looksAt "<!ENTITY" then
      subset start fuel (a, ← entity entities)
    else if ← looksAt "<!--" then
      subset start fuel (addItem a (← comment), entities)
    else if ← looksAt "<?" then
      subset start fuel (addItem a (← instruction), entities)
    else if ← looksAt "]" then
      subsetEnd
      return (a, entities)
    else if (← looksAt "<!ELEMENT") || (← looksAt "<!ATTLIST") || (← looksAt "<!NOTATION") then
      if ← otherDeclaration then subset start fuel (a, entities)
      else throw (.unknownToken start)
    else throw (.unknownToken (← get).position)

/-- A document type declaration. -/
def typeDeclaration (a : Assembly) : Scan Prolog := do
  let start := (← get).position
  skip 9
  someSpaces
  discard nameOrEnd
  spaces
  discard externalId
  spaces
  match ← peek with
  | '>' =>
    skip 1
    return (a, [])
  | '[' =>
    skip 1
    subset start ((← get).rest.length + 1) (a, [])
  | _ => unexpected "'[' or '>'"

/-- Comments, instructions and white space. Each of the first two takes a character or more, so
`fuel` need not exceed the length of the text. -/
def misc : (fuel : Nat) → Assembly → Scan Assembly
  | 0, a => return a
  | fuel + 1, a => do
    spaces
    if ← looksAt "<!--" then misc fuel (addItem a (← comment))
    else if ← looksAt "<?" then misc fuel (addItem a (← instruction))
    else return a

/-- Comments, instructions and white space up to something else. -/
def allMisc (a : Assembly) : Scan Assembly := do misc ((← get).rest.length + 1) a

/-- The root element, of which the text has to begin with `<`. -/
def rootElement (entities : Entities) (a : Assembly) : Scan Assembly := do
  let (a, left) ← a.content entities Expansion.maxDepth (Tokens.ofElement (← get))
  set left
  return a

/-- A document, up to the end of the text. -/
def document (allowTypes : Bool) : Scan Document := do
  if ← looksAt "\uFEFF" then skip 1
  if ← looksAt "<?xml " then declaration
  let a ← allMisc .start
  let (a, entities) ←
    if ← looksAt "<!DOCTYPE" then do
      if !allowTypes then throw .typeDeclaration
      let (a, entities) ← typeDeclaration a
      pure (← allMisc a, entities)
    else pure (a, [])
  let a ← if ← looksAt "<" then rootElement entities a else pure a
  let a ← allMisc a
  if !(← get).atEnd then throw (.unknownToken (← get).position)
  a.document

end Scan

/-- The text as a document. -/
def Document.read (allowTypes : Bool) (text : String) : Except Fault Document :=
  (Scan.document allowTypes (Cursor.ofChars text.toList)).map (·.1)

end SchemaFold.Xml
