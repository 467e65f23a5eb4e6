import SchemaFold.Text.Blank
import SchemaFold.Text.Split
/-!
Cutting a path into its written steps, byte by byte.

* `Text.byte?`, `Text.slice?`: a byte of a text by its number, and the part between two bytes;
* `Scan`: how far a path has been read, and the steps found up to there;
* `Scan.read?`: reads a byte, or both bytes of a double slash;
* `Scan.opening`: what a path can begin with, read in one go;
* `split`: the written steps of a path; a double slash counts as the step `.//`.

A byte past the end, and a slice that does not begin and end between characters, leave a scan
without a result.
-/

namespace SchemaFold

/-- Byte number `i` of a text, if there is one. -/
def Text.byte? (s : String) (i : Nat) : Option UInt8 := s.toByteArray[i]?

/-- The text from byte `first` up to byte `last`. There is none if they are not in order, or if one
of them stands within a character or after the end. -/
def Text.slice? (s : String) (first last : Nat) : Option String :=
  if h : first ≤ last ∧ String.Pos.Raw.IsValid s ⟨first⟩ ∧ String.Pos.Raw.IsValid s ⟨last⟩ then
    some (String.extract ⟨⟨first⟩, h.2.1⟩ ⟨⟨last⟩, h.2.2⟩)
  else none

namespace Path

/-- The written step that goes down to all descendants. -/
def descendantMark : String := ".//"

/-- The byte of a slash. -/
def slash : UInt8 := 0x2F

/-- How far a path has been read: the steps that have been found, the byte with which the current
step starts, and the byte that is read next. -/
structure Scan where
  steps : List String
  start : Nat
  next : Nat
  deriving DecidableEq, Repr

namespace Scan

/-- Between two steps, `bytes` bytes from the beginning. -/
def after (steps : List String) (bytes : Nat) : Scan := ⟨steps, bytes, bytes⟩

/-- The steps with the current one, which stops before byte `stop`. An empty one is left out. -/
def close? (text : String) (scan : Scan) (stop : Nat) : Option (List String) :=
  if scan.start < stop then
    (Text.slice? text scan.start stop).map (fun step => scan.steps ++ [step])
  else some scan.steps

/-- Byte number `i` is a slash. -/
def isSlash? (text : String) (i : Nat) : Option Bool := (Text.byte? text i).map (· == slash)

/-- The slash at byte `i` has another one after it. -/
def isDouble? (text : String) (i : Nat) : Option Bool :=
  if i + 1 < text.utf8ByteSize then isSlash? text (i + 1) else some false

/-- Reads on: past a byte of the current step, or past a slash or two, which end it. -/
def read? (text : String) (scan : Scan) : Option Scan := do
  if ← isSlash? text scan.next then
    let isDouble ← isDouble? text scan.next
    let steps ← scan.close? text scan.next
    if isDouble then return after (steps ++ [descendantMark]) (scan.next + 2)
    else return after steps (scan.next + 1)
  else return { scan with next := scan.next + 1 }

/-- Reading goes forward. -/
theorem next_lt_of_read? {text : String} {scan more : Scan} (h : scan.read? text = some more) :
    scan.next < more.next := by
  obtain ⟨isSlash, _, h⟩ := Option.bind_eq_some_iff.mp h
  cases isSlash with
  | false =>
    cases h
    exact Nat.lt_succ_self _
  | true =>
    obtain ⟨isDouble, _, h⟩ := Option.bind_eq_some_iff.mp h
    obtain ⟨steps, _, h⟩ := Option.bind_eq_some_iff.mp h
    cases isDouble with
    | false => cases h; exact Nat.lt_succ_self _
    | true => cases h; exact Nat.lt_add_of_pos_right Nat.two_pos

/-- Reads up to the end. It is semireducible so that the scan of a given path can be evaluated. -/
@[semireducible] def run? (text : String) (scan : Scan) : Option Scan :=
  if scan.next < text.utf8ByteSize then
    match _h : scan.read? text with
    | none => none
    | some more => run? text more
  else some scan
termination_by text.utf8ByteSize - scan.next
decreasing_by
  have := next_lt_of_read? ‹_›
  omega

/-- Reads up to the end, which ends the current step. -/
def finish? (text : String) (scan : Scan) : Option (List String) := do
  let scan ← scan.run? text
  scan.close? text text.utf8ByteSize

/-- What a path begins with, if it is a slash or two, or such after a single dot, is read at once.
-/
def opening (text : String) : Scan :=
  if Text.startsWith ".//" text then after [".", descendantMark] 3
  else if Text.startsWith "./" text then after ["."] 2
  else if Text.startsWith "//" text then after [descendantMark] 2
  else if Text.startsWith "/" text then after [] 1
  else after [] 0

end Scan

/-- The steps of a path, as they are written. The text of the path is trimmed, its steps are not. -/
def split? (path : String) : Option (List String) :=
  let text := Text.trim path
  if text.isEmpty then some []
  else if text = "." then some ["."]
  else (Scan.opening text).finish? text

/-- The steps of a path, as they are written. Its scan is never without a result. -/
def split (path : String) : List String := (split? path).getD []

end Path

end SchemaFold
