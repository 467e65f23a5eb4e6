/-!
Positions in a text, by line and column, both counted from one.

* `Position.next`: the position after a character; a line feed starts a new line;
* `Position.text`: the form `line:column` of messages.
-/

namespace SchemaFold.Text

/-- A place in a text. -/
structure Position where
  line : Nat
  column : Nat
  deriving DecidableEq, Repr, Inhabited

namespace Position

/-- The first position of a text. -/
def start : Position := ⟨1, 1⟩

/-- The position after the character `c`. -/
def next (p : Position) (c : Char) : Position :=
  if c = '\n' then ⟨p.line + 1, 1⟩ else ⟨p.line, p.column + 1⟩

/-- The form `line:column`. -/
def text (p : Position) : String := toString p.line ++ ":" ++ toString p.column

end Position

end SchemaFold.Text
