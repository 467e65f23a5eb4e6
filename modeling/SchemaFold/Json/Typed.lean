import SchemaFold.Json.Skip
import SchemaFold.Keyed
/-!
Reading values of a given kind.

* `Scan.text`, `Scan.boolean`, `Scan.natural`, `Scan.optional`: the simple kinds;
* `Scan.choice`: one of two words;
* `Scan.texts`: an object of strings;
* `Record`: an object with known fields, which may also be written as a list of their values.

A value of another kind is named in the fault, with what was expected.
-/

namespace SchemaFold.Json

namespace Scan

variable {α : Type}

/-- A value of another kind stands here than the one expected. -/
def mismatch (expected : String) : Scan α := do
  let wrong := fun found => fail (.invalidType found expected)
  match ← peek with
  | none => failNext .expectedValue
  | some c =>
    if c = 'n' then
      word "ull"
      wrong .null
    else if c = 't' then
      word "rue"
      wrong (.boolean true)
    else if c = 'f' then
      word "alse"
      wrong (.boolean false)
    else if c = '-' || c.isDigit then wrong (.number (← number))
    else if c = '"' then wrong (.string (← string))
    else if c = '[' then wrong .sequence
    else if c = '\x7b' then wrong .map
    else failNext .expectedValue

/-- The next character, with which a value begins. -/
def start : Scan Char := do
  match ← next with
  | none => fail .endInValue
  | some c => return c

/-- A string. -/
def text (expected : String) : Scan String := do
  if (← start) = '"' then string else mismatch expected

/-- A boolean. -/
def boolean : Scan Bool := do
  let c ← start
  if c = 't' then
    word "rue"
    return true
  else if c = 'f' then
    word "alse"
    return false
  else mismatch "a boolean"

/-- A whole number of 64 bits. -/
def natural : Scan Nat := do
  let expected := "usize"
  let c ← start
  if c = '-' || c.isDigit then
    match ← number with
    | .natural n => return n
    | .negative n => fail (.invalidValue (.number (.negative n)) expected)
    | found => fail (.invalidType (.number found) expected)
  else mismatch expected

/-- A value, or none for null. -/
def optional (scan : Scan α) : Scan (Option α) := do
  if (← start) = 'n' then
    word "ull"
    return none
  else return some (← scan)

/-- Null. -/
def unit : Scan Unit := do
  if (← start) = 'n' then word "ull" else mismatch "unit"

/-- The value that a word stands for. -/
def variant (first second : String × α) (name : String) : Scan α := do
  if name = first.1 then return first.2
  else if name = second.1 then return second.2
  else fail (.unknownVariant name first.1 second.1)

/-- One of two words, as a string or as the key of an object with null under it. -/
def choice (room : Nat) (first second : String × α) : Scan α := do
  let c ← start
  if c = '"' then variant first second (← string)
  else if c = '\x7b' then
    enter room
    let found ← variant first second (← text "variant identifier")
    colon
    unit
    match ← next with
    | none => fail .endInObject
    | some c =>
      if c = '\x7d' then
        skip
        return found
      else fail .expectedValue
  else failNext .expectedValue

/-- An object of strings. A key that is repeated keeps its first place and its last value. -/
def texts (room : Nat) : Scan (Keyed String) := do
  if (← start) = '\x7b' then
    object room (fun key table => do
      colon
      return Keyed.put key (← text "a string") table) []
  else mismatch "a map"

end Scan

/-- How a kind of object is read: what it is called, its fields in order, and what is made of the
values read. `isStrict` refuses other fields, which are passed over otherwise. -/
structure Record (α β : Type) where
  title : String
  blank : α
  fields : List (String × (Nat → Scan (α → α)))
  isStrict : Bool
  ofObject : α → Scan β
  ofList : α → Scan β

namespace Record

variable {α β : Type}

/-- A member of the object, with the names of those before it. -/
def member (record : Record α β) (room : Nat) (key : String) (s : List String × α) :
    Scan (List String × α) := do
  match Keyed.get? key record.fields with
  | none =>
    if record.isStrict then Scan.failOpen (.unknownField key (Keyed.keys record.fields))
    Scan.colon
    Scan.skipValue
    return s
  | some field =>
    if s.1.contains key then Scan.failOpen (.duplicateField key)
    Scan.colon
    let write ← field room
    return (key :: s.1, write s.2)

/-- The fields as items of a list, of which the last ones may be missing. -/
def inOrder (room : Nat) : List (String × (Nat → Scan (α → α))) → (isFirst : Bool) → α → Scan α
  | [], _, a => return a
  | (_, field) :: fields, isFirst, a => do
    if ← Scan.nextItem isFirst then
      let write ← field room
      inOrder room fields false (write a)
    else return a

/-- An object or list with `room` levels left. -/
def read (record : Record α β) (room : Nat) : Scan β := do
  let c ← Scan.start
  if c = '\x7b' then
    Scan.enter room
    Scan.within '\x7d' do
      let (_, a) ← Scan.members (record.member (room - 1)) ([], record.blank)
      record.ofObject a
  else if c = '[' then
    Scan.enter room
    Scan.within ']' do
      let a ← inOrder (room - 1) record.fields true record.blank
      record.ofList a
  else Scan.mismatch record.title

end Record

end SchemaFold.Json
