/-!
White space, as Unicode's property White_Space has it, and trimming.

* `isSpace`: the characters with the property (no zero-width space, no byte order mark);
* `trimChars`, `trim`: a text without the white space at its two ends;
* `isBlank`: nothing but white space.
-/

namespace SchemaFold.Text

/-- The characters with the Unicode property White_Space. -/
def isSpace (c : Char) : Bool :=
  (0x09 ≤ c.toNat && c.toNat ≤ 0x0D) || c.toNat == 0x20 || c.toNat == 0x85 || c.toNat == 0xA0 ||
  c.toNat == 0x1680 || (0x2000 ≤ c.toNat && c.toNat ≤ 0x200A) || c.toNat == 0x2028 ||
  c.toNat == 0x2029 || c.toNat == 0x202F || c.toNat == 0x205F || c.toNat == 0x3000

/-- The characters without white space at the front. -/
def dropSpaces (cs : List Char) : List Char := cs.dropWhile isSpace

/-- The characters without white space at either end. -/
def trimChars (cs : List Char) : List Char :=
  (dropSpaces (dropSpaces cs).reverse).reverse

/-- The text without white space at either end. -/
def trim (s : String) : String := String.ofList (trimChars s.toList)

/-- A text is blank if it holds nothing but white space. -/
def isBlank (s : String) : Bool := s.toList.all isSpace

/-- A text that is given and not blank. -/
def nonBlank? (s : Option String) : Option String := s.filter (fun t => !isBlank t)

end SchemaFold.Text
