import SchemaFold.Context.Basic
import SchemaFold.Json.Quoted
import SchemaFold.Json.Typed
/-!
Contexts as JSON: an object whose values are strings and objects of the same kind.

* `Context.compact`: without white space;
* `Context.pretty`: one entry a line, indented by two spaces a level;
* `Context.scan`: reads either form, and any other spacing.

Reading a value under a key of the outermost object comes first, and only then is it seen whether it
is a string or an object of such values.
-/

namespace SchemaFold

namespace Context

/-! ### Writing -/

/-- The entries of an object, a comma before all but the first. -/
def compactEntries : (isFirst : Bool) → Context → List Char
  | _, .empty => []
  | isFirst, .scalar key text rest =>
    (if isFirst then [] else [',']) ++ Json.quoted key ++ ':' :: Json.quoted text ++
      compactEntries false rest
  | isFirst, .nested key inner rest =>
    (if isFirst then [] else [',']) ++ Json.quoted key ++ ':' :: '\x7b' ::
      compactEntries true inner ++ '\x7d' :: compactEntries false rest

/-- The characters of a context without white space. -/
def compactChars (c : Context) : List Char := '\x7b' :: compactEntries true c ++ ['\x7d']

/-- A context without white space. -/
def compact (c : Context) : String := String.ofList c.compactChars

/-- A new line, indented to a level. -/
def newLine (level : Nat) : List Char := '\n' :: List.replicate (2 * level) ' '

/-- The entries of an object, each on a line of its own at a level. -/
def prettyEntries (level : Nat) : (isFirst : Bool) → Context → List Char
  | _, .empty => []
  | isFirst, .scalar key text rest =>
    (if isFirst then [] else [',']) ++ newLine level ++ Json.quoted key ++ ':' :: ' ' ::
      Json.quoted text ++ prettyEntries level false rest
  | isFirst, .nested key inner rest =>
    (if isFirst then [] else [',']) ++ newLine level ++ Json.quoted key ++ ':' :: ' ' :: '\x7b' ::
      prettyEntries (level + 1) true inner ++
      (if inner.isEmpty then [] else newLine level) ++ '\x7d' :: prettyEntries level false rest

/-- The characters of a context that stands at a level. -/
def prettyChars (level : Nat) (c : Context) : List Char :=
  '\x7b' :: prettyEntries (level + 1) true c ++
    (if c.isEmpty then [] else newLine level) ++ ['\x7d']

/-- A context with one entry a line. -/
def pretty (c : Context) : String := String.ofList (c.prettyChars 0)

/-! ### Reading -/

open Json (Scan)
open Json.Scan

/-- Adds an entry to what has been read of an object, if all of it is fit for a context. -/
def extend (before : Option Context) (key : String) (value : Option Value) : Option Context :=
  match before, value with
  | some c, some v => some (c.put key v)
  | _, _ => none

/-- A JSON value with `room` levels left, as a value of a context if it is fit for one. -/
def scanValue : (room : Nat) → Scan (Option Value)
  | 0 => failNext .recursionLimit
  | room + 1 => do
    match ← next with
    | none => fail .endInValue
    | some c =>
      if c = '"' then return some (.scalar (← string))
      else if c = '\x7b' then
        let inner ← object (room + 1) (fun key before => do
          colon
          return extend before key (← scanValue room)) (some .empty)
        return inner.map .context
      else if c = '[' then
        list (room + 1) (fun _ => discard (scanValue room)) ()
        return none
      else if c = 'n' then
        word "ull"
        return none
      else if c = 't' then
        word "rue"
        return none
      else if c = 'f' then
        word "alse"
        return none
      else if c = '-' || c.isDigit then
        discard number
        return none
      else failNext .expectedValue

/-- A context with `room` levels left. -/
def scan (room : Nat) : Scan Context := do
  if (← start) = '\x7b' then
    object room (fun key c => do
      colon
      match ← scanValue (room - 1) with
      | some value => return c.put key value
      | none => failOpen .noVariant) .empty
  else mismatch "a map"

/-- The context that a text writes. -/
def ofJson (text : String) : Except Json.Failure Context := Json.read (scan maxRoom) text

end Context

end SchemaFold
