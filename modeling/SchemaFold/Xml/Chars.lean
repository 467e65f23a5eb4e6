/-!
The character classes of XML.

* `isChar`: what may occur in a document at all;
* `isSpace`: what separates the parts of a tag;
* `isNameStart`, `isNameChar`: what names are made of, the colon included.
-/

namespace SchemaFold.Xml

/-- The characters of a document: below the space only tab, line feed and carriage return, and not
the last two code points of the first plane. -/
def isChar (c : Char) : Bool :=
  if c.toNat < 0x20 then c == '\t' || c == '\n' || c == '\r'
  else c.toNat != 0xFFFE && c.toNat != 0xFFFF

/-- White space in markup. -/
def isSpace (c : Char) : Bool := c == ' ' || c == '\t' || c == '\n' || c == '\r'

/-- Membership in a closed range of code points. -/
def within (first last : Nat) (c : Char) : Bool := first ≤ c.toNat && c.toNat ≤ last

/-- The characters that begin a name. -/
def isNameStart (c : Char) : Bool :=
  within 0x41 0x5A c || within 0x61 0x7A c || c == ':' || c == '_' ||
  within 0xC0 0xD6 c || within 0xD8 0xF6 c || within 0xF8 0x2FF c || within 0x370 0x37D c ||
  within 0x37F 0x1FFF c || within 0x200C 0x200D c || within 0x2070 0x218F c ||
  within 0x2C00 0x2FEF c || within 0x3001 0xD7FF c || within 0xF900 0xFDCF c ||
  within 0xFDF0 0xFFFD c || within 0x10000 0xEFFFF c

/-- The characters that continue a name. -/
def isNameChar (c : Char) : Bool :=
  isNameStart c || within 0x30 0x39 c || c == '-' || c == '.' || c.toNat == 0xB7 ||
  within 0x300 0x36F c || within 0x203F 0x2040 c

/-- The first octet of the UTF-8 form of `c`, as the character with that code. -/
def leadOctet (c : Char) : Char :=
  if c.toNat < 0x80 then c
  else if c.toNat < 0x800 then Char.ofNat (0xC0 + c.toNat / 0x40)
  else if c.toNat < 0x10000 then Char.ofNat (0xE0 + c.toNat / 0x1000)
  else Char.ofNat (0xF0 + c.toNat / 0x40000)

end SchemaFold.Xml
