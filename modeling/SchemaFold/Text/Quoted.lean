import SchemaFold.Text.Printable
/-!
Quoted forms, for messages and log fields that must show any text on one line.

* `quote`: a text between double quotes;
* `quoteChar`: a character between single quotes.

A quote of the same kind and a backslash get a backslash; tab, line feed, carriage return and NUL
have letters of their own; what does not show by itself is written by its code point in hexadecimal.
-/

namespace SchemaFold.Text

/-- A number in lower case hexadecimal, without leading zeros. -/
def hex (n : Nat) : String := String.ofList (Nat.toDigits 16 n)

/-- A character inside quotes of the kind `mark`. -/
def quotedChar (mark : Char) (c : Char) : String :=
  if c = '\x00' then "\\0"
  else if c = '\t' then "\\t"
  else if c = '\r' then "\\r"
  else if c = '\n' then "\\n"
  else if c = '\\' then "\\\\"
  else if c = mark then String.ofList ['\\', mark]
  else if isPrintable c && !isExtending c then c.toString
  else String.join ["\\u", "\x7b", hex c.toNat, "\x7d"]

/-- The text between double quotes. -/
def quote (s : String) : String :=
  "\"" ++ String.join (s.toList.map (quotedChar '"')) ++ "\""

/-- The character between single quotes. -/
def quoteChar (c : Char) : String := "'" ++ quotedChar '\'' c ++ "'"

end SchemaFold.Text
