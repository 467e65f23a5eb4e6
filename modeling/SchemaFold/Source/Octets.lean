/-!
Texts as octets, and octets in percent notation.

* `octetsOf`: the UTF-8 form of a character;
* `percentEncode`: writes the characters of a set, and all beyond ASCII, by their octets;
* `percentDecode`: the octets that a text stands for;
* `decodeLossy`: octets as text, a replacement character for every part that is not UTF-8.
-/

namespace SchemaFold.Octets

/-- The UTF-8 form of a character, as numbers below 256. -/
def octetsOf (c : Char) : List Nat :=
  let n := c.toNat
  if n < 0x80 then [n]
  else if n < 0x800 then [0xC0 + n / 0x40, 0x80 + n % 0x40]
  else if n < 0x10000 then [0xE0 + n / 0x1000, 0x80 + n / 0x40 % 0x40, 0x80 + n % 0x40]
  else [0xF0 + n / 0x40000, 0x80 + n / 0x1000 % 0x40, 0x80 + n / 0x40 % 0x40, 0x80 + n % 0x40]

/-- A digit in base sixteen, in upper case. -/
def upperHexDigit (n : Nat) : Char :=
  if n < 10 then Char.ofNat (0x30 + n) else Char.ofNat (0x37 + n)

/-- An octet in percent notation. -/
def percent (octet : Nat) : List Char :=
  ['%', upperHexDigit (octet / 16), upperHexDigit (octet % 16)]

/-- Writes the characters with property `special`, and all beyond ASCII, in percent notation. -/
def percentEncode (special : Char → Bool) (cs : List Char) : List Char :=
  cs.flatMap (fun c => if 0x7F < c.toNat || special c then (octetsOf c).flatMap percent else [c])

/-- The value of a digit in base sixteen. -/
def hexValue? (c : Char) : Option Nat :=
  if c.isDigit then some (c.toNat - 0x30)
  else if 'a' ≤ c && c ≤ 'f' then some (c.toNat - 0x57)
  else if 'A' ≤ c && c ≤ 'F' then some (c.toNat - 0x37)
  else none

/-- The octets that a text stands for; a percent sign without two digits stands for itself. -/
def percentDecode : List Char → List Nat
  | '%' :: a :: b :: cs =>
    match hexValue? a, hexValue? b with
    | some x, some y => (x * 16 + y) :: percentDecode cs
    | _, _ => 0x25 :: percentDecode (a :: b :: cs)
  | c :: cs => octetsOf c ++ percentDecode cs
  | [] => []

/-- The octets that continue a character: how many follow a first octet, the value it gives, and the
range of the second one. -/
def lead? (octet : Nat) : Option (Nat × Nat × Nat × Nat) :=
  if 0xC2 ≤ octet && octet ≤ 0xDF then some (1, octet - 0xC0, 0x80, 0xBF)
  else if octet = 0xE0 then some (2, 0, 0xA0, 0xBF)
  else if octet = 0xED then some (2, 0xD, 0x80, 0x9F)
  else if 0xE1 ≤ octet && octet ≤ 0xEF then some (2, octet - 0xE0, 0x80, 0xBF)
  else if octet = 0xF0 then some (3, 0, 0x90, 0xBF)
  else if 0xF1 ≤ octet && octet ≤ 0xF3 then some (3, octet - 0xF0, 0x80, 0xBF)
  else if octet = 0xF4 then some (3, 4, 0x80, 0x8F)
  else none

/-- What has been read of a character: how many octets are missing, the value so far, and the range
of the next one. -/
abbrev Partial := Option (Nat × Nat × Nat × Nat)

/-- Begins with an octet that continues nothing. -/
def begin (octet : Nat) : List Char × Partial :=
  if octet < 0x80 then ([Char.ofNat octet], none)
  else
    match lead? octet with
    | some state => ([], some state)
    | none => (['\uFFFD'], none)

/-- Octets as text. -/
def decodeFrom : Partial → List Nat → List Char
  | none, [] => []
  | some _, [] => ['\uFFFD']
  | none, octet :: rest =>
    let (written, state) := begin octet
    written ++ decodeFrom state rest
  | some (missing, value, low, high), octet :: rest =>
    if low ≤ octet && octet ≤ high then
      let grown := value * 0x40 + (octet - 0x80)
      if missing = 1 then Char.ofNat grown :: decodeFrom none rest
      else decodeFrom (some (missing - 1, grown, 0x80, 0xBF)) rest
    else
      let (written, state) := begin octet
      '\uFFFD' :: written ++ decodeFrom state rest

/-- Octets as text, with a replacement character for every part that is not UTF-8. -/
def decodeLossy (octets : List Nat) : String := String.ofList (decodeFrom none octets)

end SchemaFold.Octets
