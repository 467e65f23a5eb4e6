import SchemaFold.Context.Json
import SchemaFold.Emit.Basic
/-!
Emitting constructs as JSON, one record a line.

* `Emitter.record`: the record of a construct: its name and its context;
* `Output`: what has been written, and how many bytes there is room for;
* `Emitter.lines`: writes the record of each construct and a line feed.

A record never holds a line feed of its own, because strings are written with escapes.
-/

namespace SchemaFold

/-- What has been written. With `room`, only so many bytes more can be; `isCut` says that the last
character was written in part. -/
structure Output where
  written : List Char
  isCut : Bool
  room : Option Nat
  deriving DecidableEq, Repr

namespace Output

/-- Nothing written, and room for everything. -/
def unlimited : Output := ⟨[], false, none⟩

/-- Nothing written, and room for some bytes. -/
def limited (bytes : Nat) : Output := ⟨[], false, some bytes⟩

/-- The output as text. A character written in part shows as a replacement character. -/
def text (output : Output) : String :=
  String.ofList (output.written ++ if output.isCut then ['\uFFFD'] else [])

/-- Writes as much of a text as there is room for, and answers whether that was all. -/
def write (output : Output) : List Char → Output × Bool
  | [] => (output, true)
  | c :: cs =>
    match output.room with
    | none => ({ output with written := output.written ++ c :: cs }, true)
    | some bytes =>
      if c.utf8Size ≤ bytes then
        write { output with written := output.written ++ [c], room := some (bytes - c.utf8Size) } cs
      else ({ output with isCut := output.isCut || 0 < bytes, room := some 0 }, false)

end Output

namespace Emitter

/-- The record of a construct. -/
def record (name : String) (construct : Context) : List Char :=
  (Context.scalar "name" name (.nested "model" construct .empty)).compactChars

/-- Why an output takes nothing more. -/
def outputFull : String := "writer is full"

/-- Writes a record a line. It makes a difference whether the record did not fit or its line feed.
-/
def lines : Emitter Output where
  emit name construct output :=
    let (next, isWhole) := output.write (record name construct)
    if isWhole then
      let (last, isEnded) := next.write ['\n']
      (last, if isEnded then .done () else .fail (.io outputFull))
    else (next, .fail (.json (.unwritable outputFull)))

end Emitter

end SchemaFold
