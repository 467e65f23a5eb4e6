import SchemaFold.Keyed
import SchemaFold.Xml.Cursor
/-!
References in text and in attribute values.

* `Piece`: a character, a character that is given by a reference, or an entity's text;
* `Pieces.read`: a text cut into pieces, up to the first reference that cannot be resolved;
* `Expansion`: how many references an entity's text has led to, and the two bounds on that;
* `valueOf`: an attribute value with its references expanded and its white space turned to spaces.

A text that leads to itself is refused by the bounds: entities nest ten deep at most, and one
reference of the document leads to 255 others at most.
-/

namespace SchemaFold.Xml

open Text (Position)

/-- The texts that a document type declaration gives to entities; the first one for a name counts.
-/
abbrev Entities := Keyed Cursor

/-- A piece of text. For a reference the position is its beginning, for an entity also its end. -/
inductive Piece
  | literal (c : Char)
  | given (c : Char) (found : Position)
  | entity (value : Cursor) (after : Position)
  deriving Repr

/-- Pieces in order, up to the end of the text or to a fault. -/
inductive Pieces
  | done
  | fault (cause : Fault)
  | next (piece : Piece) (more : Pieces)
  deriving Repr

/-- The end of the text has been reached. -/
def Pieces.atEnd : Pieces → Bool
  | .done => true
  | _ => false

/-- What a reference names. -/
inductive Reference
  | char (c : Char)
  | entity (name : String)
  deriving Repr

namespace Reference

/-- The five entities that every document has. -/
def named (name : String) : Reference :=
  if name = "quot" then .char '"'
  else if name = "amp" then .char '&'
  else if name = "apos" then .char '\''
  else if name = "lt" then .char '<'
  else if name = "gt" then .char '>'
  else .entity name

/-- The value of a digit in bases up to sixteen. -/
def digit (c : Char) : Nat :=
  if c.isDigit then c.toNat - 0x30
  else if 'a' ≤ c then c.toNat - 0x57
  else c.toNat - 0x37

/-- The number written by `digits` in base `base`. -/
def number (base : Nat) (digits : List Char) : Nat :=
  digits.foldl (fun n c => n * base + digit c) 0

/-- The character with the code `n`; the replacement character stands in for a code that no
character has. -/
def charOfCode (n : Nat) : Char := if n.isValidChar then Char.ofNat n else '\uFFFD'

/-- The character that a number between `&#` and `;` refers to. It has at least one digit, fits in
32 bits and gives an XML character. -/
def ofNumber? (base : Nat) (digits : List Char) : Option Reference :=
  let n := number base digits
  if digits.isEmpty || Nat.pow 2 32 ≤ n then none
  else if isChar (charOfCode n) then some (.char (charOfCode n)) else none

/-- A digit in base sixteen. -/
def isHexDigit (c : Char) : Bool :=
  c.isDigit || ('a' ≤ c && c ≤ 'f') || ('A' ≤ c && c ≤ 'F')

/-- The reference that begins with the ampersand at the cursor. -/
def scan : Scan Reference := do
  let here := (← get).position
  let malformed {α : Type} : Scan α := throw (.malformedReference here)
  Scan.skip 1
  let found ←
    if ← Scan.looksAt "#x" then do
      Scan.skip 2
      match ofNumber? 16 (← Scan.run isHexDigit) with
      | some found => pure found
      | none => malformed
    else if ← Scan.looksAt "#" then do
      Scan.skip 1
      match ofNumber? 10 (← Scan.run Char.isDigit) with
      | some found => pure found
      | none => malformed
    else
      match (← get).rest with
      | c :: _ =>
        if isNameStart c then pure (named (String.ofList (← Scan.run isNameChar))) else malformed
      | [] => malformed
  if ← Scan.looksAt ";" then
    Scan.skip 1
    return found
  else malformed

end Reference

/-- Cuts a text into pieces. Every piece takes a character or more, so `fuel` need not exceed the
length of the text. -/
def Pieces.read (entities : Entities) : (fuel : Nat) → Cursor → Pieces
  | 0, _ => .done
  | fuel + 1, c =>
    match c.rest with
    | [] => .done
    | '&' :: _ =>
      match Reference.scan c with
      | .error cause => .fault cause
      | .ok (.char found, c') => .next (.given found c.position) (read entities fuel c')
      | .ok (.entity name, c') =>
        match Keyed.get? name entities with
        | some value => .next (.entity value c'.position) (read entities fuel c')
        | none => .fault (.unknownEntity name c.position)
    | found :: cs => .next (.literal found) (read entities fuel ⟨c.position.next found, cs⟩)

/-- The pieces of a text. -/
def Pieces.ofCursor (entities : Entities) (c : Cursor) : Pieces :=
  .read entities c.rest.length c

namespace Expansion

/-- How deep entities may nest. -/
def maxDepth : Nat := 10

/-- How many references one reference of the document may lead to. -/
def maxReferences : Nat := 255

/-- Counts a reference to an entity, made with `room` levels left and after `count` others. -/
def enter (room count : Nat) (after : Position) : Except Fault Nat :=
  if room = maxDepth then .ok count
  else if room = 0 || maxReferences ≤ count then .error (.referenceLoop after)
  else .ok (count + 1)

/-- The count once the entity's text has been used: outside all entities it starts anew. -/
def leave (room count : Nat) : Nat := if room = maxDepth then 0 else count

end Expansion

/-- Writes a character of an attribute value. Tab, line feed and carriage return become spaces, and
a carriage return before a line feed is dropped. -/
def pushValue (c : Char) (beforeLineFeed : Bool) (taken : List Char) : List Char :=
  if c = '\r' && beforeLineFeed then taken
  else if c = '\n' || c = '\r' || c = '\t' then ' ' :: taken
  else c :: taken

/-- The next piece is a literal line feed. -/
def Pieces.startsWithLineFeed : Pieces → Bool
  | .next (.literal '\n') _ => true
  | _ => false

/-- Expands the pieces of an attribute value where `room` levels of entities are left; `entity` does
this for the text of an entity. The characters are put in reverse before `taken`; the number of
references goes with them. -/
def expandPieces (room : Nat)
    (entity : Cursor → (after : Position) → Nat → List Char → Except Fault (List Char × Nat)) :
    Pieces → (count : Nat) → (taken : List Char) → Except Fault (List Char × Nat)
  | .done, count, taken => .ok (taken, count)
  | .fault cause, _, _ => .error cause
  | .next (.literal c) more, count, taken =>
    expandPieces room entity more count (pushValue c more.startsWithLineFeed taken)
  | .next (.given c found) more, count, taken =>
    if room = Expansion.maxDepth then expandPieces room entity more count (c :: taken)
    else if c = '<' then .error (.escapedLess found)
    else expandPieces room entity more count (pushValue c false taken)
  | .next (.entity value after) more, count, taken => do
    let (taken, count) ← entity value after count taken
    expandPieces room entity more count taken

/-- Expands the pieces of an attribute value, with `room` levels of entities left. -/
def expandValue (entities : Entities) :
    (room : Nat) → Pieces → (count : Nat) → (taken : List Char) → Except Fault (List Char × Nat)
  | 0 => expandPieces 0 (fun _ after _ _ => .error (.referenceLoop after))
  | room + 1 => expandPieces (room + 1) (fun value after count taken => do
    let count ← Expansion.enter (room + 1) count after
    let (taken, count) ← expandValue entities room (.ofCursor entities value) count taken
    return (taken, Expansion.leave (room + 1) count))

/-- The value of an attribute that is written as `value`. -/
def valueOf (entities : Entities) (room : Nat) (count : Nat) (value : Cursor) :
    Except Fault (String × Nat) := do
  let (taken, count) ← expandValue entities room (.ofCursor entities value) count []
  return (String.ofList taken.reverse, count)

end SchemaFold.Xml
