import SchemaFold.Source.Fault
import SchemaFold.Source.Octets
import SchemaFold.Text.Quoted
import SchemaFold.Text.Split
/-!
The hosts of URLs.

* `Host.parse`: the host of a known scheme, a domain in lower case or an address in its one form;
* `Host.parseOpaque`: the host of any other scheme, kept as it is.

Domains are those of ASCII. A domain with other characters is refused, where the standard would put
it in its encoded form, and a label that begins with `xn--` is not decoded.
-/

namespace SchemaFold.Url.Host

/-! ### Addresses of four numbers -/

/-- The number that `digits` write in a base, if they are digits of it. -/
def number? (base : Nat) (digits : List Char) : Option Nat :=
  digits.foldl (fun n? c =>
    match n?, Octets.hexValue? c with
    | some n, some d => if d < base then some (n * base + d) else none
    | _, _ => none) (some 0)

/-- A part of an address: decimal, or with a mark for another base. -/
def part? (cs : List Char) : Option Nat :=
  match cs with
  | [] => none
  | '0' :: 'x' :: rest => number? 16 rest
  | '0' :: c :: rest => number? 8 (c :: rest)
  | cs => number? 10 cs

/-- The parts between the points, less an empty one at the end. -/
def parts (domain : List Char) : List (List Char) :=
  let pieces := Text.splitChars '.' domain
  if pieces.length > 1 && pieces.getLast? == some [] then pieces.dropLast else pieces

/-- The last part is a number, so that the whole has to be an address. -/
def endsInNumber (domain : List Char) : Bool :=
  match (parts domain).getLast? with
  | some last => (!last.isEmpty && last.all Char.isDigit) || (part? last).isSome
  | none => false

/-- The value of an address: each part is an octet, and the last one fills what is missing. -/
def ipv4Value (domain : List Char) : Except Fault Nat :=
  let ps := parts domain
  match ps.mapM part? with
  | none => .error .invalidIpv4
  | some numbers =>
    let before := numbers.dropLast
    let last := numbers.getLast?.getD 0
    if 4 < numbers.length || Nat.pow 256 (4 - before.length) ≤ last || before.any (255 < ·) then
      .error .invalidIpv4
    else .ok (before.zipIdx.foldr (fun n sum => n.1 * Nat.pow 256 (3 - n.2) + sum) last)

/-- An address of four octets. -/
def ipv4Text (n : Nat) : String :=
  String.intercalate "." ([16777216, 65536, 256, 1].map (fun unit => toString (n / unit % 256)))

/-! ### Addresses of eight numbers -/

/-- A group of up to four digits. -/
def group? (cs : List Char) : Option (List Nat) :=
  if cs.isEmpty || 4 < cs.length then none else (number? 16 cs).map (fun n => [n])

/-- An octet in decimal without a leading zero. -/
def octet? (cs : List Char) : Option Nat :=
  if cs.isEmpty || (1 < cs.length && cs.head? == some '0') then none
  else (number? 10 cs).bind (fun n => if n ≤ 255 then some n else none)

/-- Four octets as two groups. -/
def embedded? (cs : List Char) : Option (List Nat) :=
  match (Text.splitChars '.' cs).mapM octet? with
  | some [a, b, c, d] => some [a * 256 + b, c * 256 + d]
  | _ => none

/-- Groups between colons, of which the last may be four octets. -/
def groups? (cs : List Char) : Option (List Nat) :=
  if cs.isEmpty then some []
  else
    let pieces := Text.splitChars ':' cs
    let last := match pieces.getLast? with
      | some piece => if piece.contains '.' then embedded? piece else group? piece
      | none => none
    match pieces.dropLast.mapM group?, last with
    | some before, some l => some (before.flatten ++ l)
    | _, _ => none

/-- The parts before and after the first double colon. -/
def cutDouble : List Char → Option (List Char × List Char)
  | [] => none
  | ':' :: ':' :: cs => some ([], cs)
  | c :: cs => (cutDouble cs).map (fun parts => (c :: parts.1, parts.2))

/-- The eight groups of an address; a double colon stands for as many zeros as are missing. -/
def ipv6Value (cs : List Char) : Except Fault (List Nat) :=
  let found := match cutDouble cs with
    | none => groups? cs
    | some (left, right) =>
      if left.contains '.' then none
      else
        match groups? left, groups? right with
        | some a, some b =>
          if a.length + b.length ≤ 7 then
            some (a ++ List.replicate (8 - a.length - b.length) 0 ++ b)
          else none
        | _, _ => none
  match found with
  | some groups => if groups.length = 8 then .ok groups else .error .invalidIpv6
  | none => .error .invalidIpv6

/-- The number of zeros that groups begin with. -/
def zeros (groups : List Nat) : Nat := (groups.takeWhile (· == 0)).length

/-- Where the longest run of zeros begins, the first of several, if it has two zeros or more. -/
def longestZeros (groups : List Nat) : Option (Nat × Nat) :=
  let runs := (List.range groups.length).map (fun i => (i, zeros (groups.drop i)))
  runs.foldl (fun best run =>
    match best with
    | some (_, length) => if length < run.2 then some run else best
    | none => if 2 ≤ run.2 then some run else none) none

/-- Groups with colons between them. -/
def groupsText (groups : List Nat) : String := String.intercalate ":" (groups.map Text.hex)

/-- An address in its short form. -/
def ipv6Text (groups : List Nat) : String :=
  match longestZeros groups with
  | some (i, length) =>
    "[" ++ groupsText (groups.take i) ++ "::" ++ groupsText (groups.drop (i + length)) ++ "]"
  | none => "[" ++ groupsText groups ++ "]"

/-- An address between brackets. -/
def bracketed (cs : List Char) : Except Fault String :=
  if cs.getLast? = some ']' && 1 < cs.length then
    (ipv6Value (cs.drop 1).dropLast).map ipv6Text
  else .error .invalidIpv6

/-! ### Domains -/

/-- What no domain may have. -/
def isForbidden (c : Char) : Bool :=
  c.toNat ≤ 0x20 || 0x7F ≤ c.toNat || "#/:<>?@[\\]^|%".toList.contains c

/-- The host of a known scheme. Its domain has to be one of ASCII. -/
def parse (cs : List Char) : Except Fault String :=
  if cs.head? = some '[' then bracketed cs
  else
    let domain := (Octets.decodeLossy (Octets.percentDecode cs)).toList.map Char.toLower
    if domain.isEmpty then .error .emptyHost
    else if domain.any isForbidden then .error .invalidDomain
    else if endsInNumber domain then (ipv4Value domain).map ipv4Text
    else .ok (String.ofList domain)

/-- What no other host may have. -/
def isForbiddenOpaque (c : Char) : Bool :=
  c == '\x00' || "\t\n\r #/:<>?@[\\]^|".toList.contains c

/-- The host of any other scheme. -/
def parseOpaque (cs : List Char) : Except Fault String :=
  if cs.head? = some '[' then bracketed cs
  else if cs.any isForbiddenOpaque then .error .invalidCharacter
  else .ok (String.ofList
    (Octets.percentEncode (fun c => c.toNat < 0x20 || c.toNat = 0x7F) cs))

end SchemaFold.Url.Host
