import SchemaFold.Text.Quoted
/-!
Strings in JSON text.

* `Json.escape`: a character as it stands inside quotes;
* `Json.quoted`: a string with its quotes.

Only the two characters that quoting needs and the controls below the space are escaped.
-/

namespace SchemaFold.Json

/-- The digit `n` in base sixteen. -/
def hexDigit (n : Nat) : Char :=
  if n < 10 then Char.ofNat (0x30 + n) else Char.ofNat (0x57 + n)

/-- A character inside quotes. -/
def escape (c : Char) : List Char :=
  if c = '"' then ['\\', '"']
  else if c = '\\' then ['\\', '\\']
  else if c = '\x08' then ['\\', 'b']
  else if c = '\x0C' then ['\\', 'f']
  else if c = '\n' then ['\\', 'n']
  else if c = '\r' then ['\\', 'r']
  else if c = '\t' then ['\\', 't']
  else if c.toNat < 0x20 then
    ['\\', 'u', '0', '0', hexDigit (c.toNat / 16), hexDigit (c.toNat % 16)]
  else [c]

/-- The characters between quotes. -/
def quotedChars (cs : List Char) : List Char := '"' :: (cs.flatMap escape ++ ['"'])

/-- A string between quotes. -/
def quoted (s : String) : List Char := quotedChars s.toList

end SchemaFold.Json
