import SchemaFold.Text.Split
import SchemaFold.Xml.Chars
import SchemaFold.Xml.Fault
/-!
Reading a text from front to end.

* `Cursor`: the text that is left, and the position it starts at;
* `Scan`: a reader of one part, which moves the cursor past it or fails;
* the small readers that markup is made of: spaces, quotes, names, runs up to a terminator.
-/

namespace SchemaFold.Xml

open Text (Position)

/-- A text that is being read. -/
structure Cursor where
  position : Position
  rest : List Char
  deriving Repr, Inhabited

namespace Cursor

/-- The start of a text. -/
def ofChars (cs : List Char) : Cursor := ⟨Position.start, cs⟩

/-- Nothing is left. -/
def atEnd (c : Cursor) : Bool := c.rest.isEmpty

/-- The text left begins with `start`. -/
def startsWith (c : Cursor) (start : String) : Bool := start.toList.isPrefixOf c.rest

/-- Past `n` characters. -/
def advance : Nat → Cursor → Cursor
  | n + 1, ⟨p, c :: cs⟩ => advance n ⟨p.next c, cs⟩
  | _, c => c

/-- The longest run of characters with property `p`, put in reverse before `taken`. -/
def spanFrom (p : Char → Bool) : Position → (taken rest : List Char) → List Char × Cursor
  | here, taken, [] => (taken, ⟨here, []⟩)
  | here, taken, c :: cs =>
    if p c then spanFrom p (here.next c) (c :: taken) cs else (taken, ⟨here, c :: cs⟩)

/-- The longest run of characters with property `p`, and what follows it. -/
def span (p : Char → Bool) (c : Cursor) : List Char × Cursor :=
  let (taken, rest) := spanFrom p c.position [] c.rest
  (taken.reverse, rest)

end Cursor

/-- A reader of one part of a text. -/
abbrev Scan := StateT Cursor (Except Fault)

namespace Scan

/-- Whether the text left begins with `start`. -/
def looksAt (start : String) : Scan Bool := return (← get).startsWith start

/-- Passes over `n` characters. -/
def skip (n : Nat) : Scan Unit := modify (Cursor.advance n)

/-- The next character; there has to be one. -/
def peek : Scan Char := do
  match (← get).rest with
  | c :: _ => return c
  | [] => throw .endOfText

/-- Fails at the next character, which is not what was `expected`. -/
def unexpected {α : Type} (expected : String) : Scan α := do
  throw (.unexpected expected (leadOctet (← peek)) (← get).position)

/-- Passes over the character `c`. -/
def char (c : Char) : Scan Unit := do
  if (← peek) = c then skip 1 else unexpected (String.ofList ['\'', c, '\''])

/-- Passes over the text `expected`. -/
def string (expected : String) : Scan Unit := do
  if ← looksAt expected then skip expected.length
  else throw (.missing expected (← get).position)

/-- The longest run of characters with property `p`. -/
def run (p : Char → Bool) : Scan (List Char) := do
  let (taken, rest) := (← get).span p
  set rest
  return taken

/-- Passes over white space, if there is any. -/
def spaces : Scan Unit := discard (run isSpace)

/-- Passes over white space, of which there has to be some. -/
def someSpaces : Scan Unit := do
  if isSpace (← peek) then spaces else unexpected "a whitespace"

/-- Passes over an equals sign and the white space around it. -/
def equals : Scan Unit := do
  spaces
  char '='
  spaces

/-- Passes over a quote of either kind and says which. -/
def quote : Scan Char := do
  let c ← peek
  if c = '"' || c = '\'' then
    skip 1
    return c
  else unexpected "a quote"

/-- A name, colons included. At the end of the text the empty name is read. -/
def nameOrEnd : Scan String := do
  let here := (← get).position
  match (← get).rest with
  | [] => return ""
  | c :: _ =>
    if isNameStart c then return String.ofList (← run isNameChar) else throw (.invalidName here)

/-- A name, colons included. -/
def name : Scan String := do
  let here := (← get).position
  let found ← nameOrEnd
  if found.isEmpty then throw (.invalidName here) else return found

end Scan

/-- A name as it is written: a prefix, empty if there is none, and a local part. -/
structure WrittenName where
  pfx : String
  localName : String
  deriving DecidableEq, Repr

/-- The name as it is written. -/
def WrittenName.text (name : WrittenName) : String :=
  if name.pfx.isEmpty then name.localName else name.pfx ++ ":" ++ name.localName

namespace Scan

/-- Both parts of a written name begin as names do, and the local part is not empty. -/
def isWrittenName (pfx localName : List Char) : Bool :=
  (match pfx with
    | [] => true
    | c :: _ => isNameStart c) &&
  (match localName with
    | [] => false
    | c :: _ => isNameStart c)

/-- A name with at most one colon. -/
def writtenName : Scan WrittenName := do
  let here := (← get).position
  let plain := fun c => isNameChar c && c != ':'
  let first ← run plain
  let (pfx, localName) ←
    if ← looksAt ":" then do
      skip 1
      let second ← run plain
      if ← looksAt ":" then throw (.invalidName here)
      pure (first, second)
    else pure ([], first)
  if isWrittenName pfx localName then return ⟨String.ofList pfx, String.ofList localName⟩
  else throw (.invalidName here)

/-- Characters up to the first one without property `p`, put in reverse before `taken`; each has to
be an XML character. -/
def charsFrom (p : List Char → Bool) :
    Position → (taken rest : List Char) → Except Fault (List Char × Cursor)
  | here, taken, [] => .ok (taken.reverse, ⟨here, []⟩)
  | here, taken, c :: cs =>
    if !isChar c then .error (.nonXmlChar c here)
    else if p (c :: cs) then charsFrom p (here.next c) (c :: taken) cs
    else .ok (taken.reverse, ⟨here, c :: cs⟩)

/-- XML characters as long as the text left has property `p`. -/
def chars (p : List Char → Bool) : Scan (List Char) := do
  let c ← get
  let (taken, rest) ← charsFrom p c.position [] c.rest
  set rest
  return taken

/-- XML characters up to `mark` or the end. -/
def charsUntil (mark : String) : Scan (List Char) := chars (fun cs => !mark.toList.isPrefixOf cs)

end Scan

end SchemaFold.Xml
