import SchemaFold.Xml.Cursor
/-!
The tokens of the text between the start of an element and its end, or of an entity's text.

* `Token`: one piece of markup or one run of text, references not yet expanded;
* `Tokens`: the tokens of a text in order; the sequence ends where the text has been read or with
  the first fault;
* `Tokens.ofElement`, `Tokens.ofEntity`: the tokens of an element, and of an entity's text.

Elements are matched by number only here: the sequence ends with the close tag that takes the number
of open elements to zero, whatever its name.
-/

namespace SchemaFold.Xml

open Text (Position)

/-- A piece of markup, or a run of text. -/
inductive Token
  | start (name : WrittenName) (found : Position)
  | attribute (name : WrittenName) (value : Cursor) (found : Position)
  | startEnd (isEmpty : Bool)
  | close (name : WrittenName) (found : Position)
  | text (run : Cursor)
  | cdata (value : List Char) (found : Position)
  | comment (value : String) (found : Position)
  | instruction (found : Position)
  deriving Repr

/-- Tokens in order, up to the text left or to a fault. -/
inductive Tokens
  | done (left : Cursor)
  | fault (cause : Fault)
  | next (token : Token) (more : Tokens)
  deriving Repr

/-- Two hyphens in a row, or one at the end: what a comment may not have. -/
def hasDashes : List Char → Bool
  | [] => false
  | ['-'] => true
  | '-' :: '-' :: _ => true
  | _ :: cs => hasDashes cs

/-- The mark that ends a section, which plain text may not have. -/
def hasSectionEnd : List Char → Bool
  | [] => false
  | c :: cs => "]]>".toList.isPrefixOf (c :: cs) || hasSectionEnd cs

namespace Scan

/-- A comment. -/
def comment : Scan Token := do
  let here := (← get).position
  skip 4
  let value ← charsUntil "-->"
  string "-->"
  if hasDashes value then throw (.dashesInComment here)
  return .comment (String.ofList value) here

/-- An instruction; what it says is not kept. -/
def instruction : Scan Token := do
  let here := (← get).position
  if ← looksAt "<?xml " then throw (.declaration here)
  skip 2
  discard name
  spaces
  discard (charsUntil "?>")
  string "?>"
  return .instruction here

/-- A section of text without markup. -/
def cdata : Scan Token := do
  let here := (← get).position
  skip 9
  let value ← charsUntil "]]>"
  string "]]>"
  return .cdata value here

/-- A close tag. -/
def closeTag : Scan Token := do
  let here := (← get).position
  skip 2
  let name ← writtenName
  spaces
  char '>'
  return .close name here

/-- The beginning of a start tag, up to the name. -/
def startName : Scan Token := do
  let here := (← get).position
  skip 1
  return .start (← writtenName) here

/-- A value between quotes, as it is written. It ends before a `<`, too, and then the quote is
missing. -/
def attributeValue : Scan Cursor := do
  let mark ← quote
  let here := (← get).position
  let value ← chars (fun cs => cs.head? != some mark && cs.head? != some '<')
  char mark
  return ⟨here, value⟩

/-- An attribute. -/
def attributeItem : Scan Token := do
  let here := (← get).position
  let name ← writtenName
  equals
  return .attribute name (← attributeValue) here

/-- What follows in a start tag: its end, or an attribute, which white space has to precede. -/
def tagItem : Scan Token := do
  let spaced := match (← get).rest with
    | c :: _ => isSpace c
    | [] => false
  spaces
  match ← peek with
  | '/' =>
    skip 1
    char '>'
    return .startEnd true
  | '>' =>
    skip 1
    return .startEnd false
  | _ => if spaced then attributeItem else unexpected "a whitespace"

/-- A run of text up to the next markup. -/
def textRun : Scan Token := do
  let here := (← get).position
  let value ← chars (fun cs => cs.head? != some '<')
  if hasSectionEnd value then throw (.sectionEnd (← get).position)
  return .text ⟨here, value⟩

/-- What follows between tags. -/
def contentItem : Scan Token := do
  if ← looksAt "<!--" then comment
  else if ← looksAt "<![CDATA[" then cdata
  else if ← looksAt "<?" then instruction
  else if ← looksAt "</" then closeTag
  else
    match (← get).rest with
    | ['<'] => throw (.unknownToken (← get).position)
    | '<' :: '!' :: _ => throw (.unknownToken (← get).position)
    | '<' :: _ => startName
    | _ => textRun

end Scan

namespace Tokens

/-- Whether a token leaves its reader inside a start tag. -/
def entersTag : Token → Bool
  | .start .. | .attribute .. => true
  | _ => false

/-- The number of open elements after a token. -/
def levelAfter (level : Nat) : Token → Nat
  | .startEnd false => level + 1
  | .close .. => level - 1
  | _ => level

/-- Reads tokens with `level` elements open, until none is. Every token takes a character or more,
so `fuel` need not exceed the length of the text. -/
def read (inTag : Bool) (level : Nat) : (fuel : Nat) → Cursor → Tokens
  | 0, c => .done c
  | fuel + 1, c =>
    if c.atEnd then .done c
    else
      match (if inTag then Scan.tagItem else Scan.contentItem) c with
      | .error cause => .fault cause
      | .ok (token, c') =>
        if !entersTag token && levelAfter level token == 0 then .next token (.done c')
        else .next token (read (entersTag token) (levelAfter level token) fuel c')

/-- The tokens of the element that begins at `c`. -/
def ofElement (c : Cursor) : Tokens :=
  match Scan.startName c with
  | .error cause => .fault cause
  | .ok (token, c') => .next token (read true 0 c'.rest.length c')

/-- The tokens of an entity's text, which stands inside an element. -/
def ofEntity (c : Cursor) : Tokens := read false 1 c.rest.length c

end Tokens

end SchemaFold.Xml
