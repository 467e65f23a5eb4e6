import SchemaFold.Json.Fault
import SchemaFold.Text.Split
/-!
Reading the parts of a JSON text.

* `Scan`: a reader of one part, from the text left;
* `Scan.string`, `Scan.number`, `Scan.word`: strings, numbers and the three words;
* `Scan.members`, `Scan.items`: what stands between braces and between brackets, given a reader for
  each member and each item;
* `Scan.within`: reads what brackets of a kind enclose, and settles the open faults of that.
-/

namespace SchemaFold.Json

/-- A reader of one part of a text. -/
abbrev Scan := StateT (List Char) (Except Fault)

namespace Scan

variable {α σ : Type}

/-- Fails at what has been read. -/
def fail (cause : Cause) : Scan α := do throw ⟨cause, ← get, 0, false⟩

/-- Fails at the next character. -/
def failNext (cause : Cause) : Scan α := do throw ⟨cause, ← get, 1, false⟩

/-- Fails in a value that is still to be closed. -/
def failOpen (cause : Cause) : Scan α := do throw ⟨cause, ← get, 0, true⟩

/-- White space. -/
def isSpace (c : Char) : Bool := c == ' ' || c == '\n' || c == '\t' || c == '\r'

/-- The next character, if there is one. -/
def peek : Scan (Option Char) := return (← get).head?

/-- Passes over a character. -/
def skip : Scan Unit := modify (List.drop 1)

/-- Passes over white space, to the next character. -/
def next : Scan (Option Char) := do
  modify (List.dropWhile isSpace)
  peek

/-- The longest run of digits. -/
def digits : Scan (List Char) := do
  let cs ← get
  set (cs.dropWhile Char.isDigit)
  return cs.takeWhile Char.isDigit

/-! ### Words and numbers -/

/-- The rest of a word, of which the beginning has been read. -/
def wordRest : List Char → Scan Unit
  | [] => return
  | wanted :: more => do
    match ← peek with
    | none => fail .endInValue
    | some c =>
      if c = wanted then
        skip
        wordRest more
      else failNext .expectedIdent

/-- A word of which the first character is the next. -/
def word (rest : String) : Scan Unit := do
  skip
  wordRest rest.toList

/-- The largest number of 64 bits. -/
def maxNatural : Nat := Nat.pow 2 64 - 1

/-- Adds digits to a significand as long as it fits 64 bits. Returns it and the digits left out. -/
def gather : (significand : Nat) → List Char → Nat × List Char
  | n, [] => (n, [])
  | n, d :: ds =>
    let grown := n * 10 + (d.toNat - 0x30)
    if maxNatural < grown then (n, d :: ds) else gather grown ds

/-- A number that is not whole; it has to be in the range of floating point numbers. -/
def floating (isNegative : Bool) (significand : Nat) (exponent : Int) : Scan Number :=
  if (Number.toFloat? significand exponent).isSome then
    return .floating isNegative significand exponent
  else fail .numberOutOfRange

/-- The largest exponent that is read as it stands. -/
def maxExponent : Nat := Nat.pow 2 31 - 1

/-- Reads the digits of an exponent after those with the value `n`. One that is too large is an
error, with the text left after the digit that makes it so. -/
def exponentDigits : (n : Nat) → List Char → Except (List Char) (Nat × List Char)
  | n, [] => .ok (n, [])
  | n, c :: cs =>
    if c.isDigit then
      let grown := n * 10 + (c.toNat - 0x30)
      if maxExponent < grown then .error cs else exponentDigits grown cs
    else .ok (n, c :: cs)

/-- An exponent, added to the one that the digits before it give. -/
def exponent (isNegative : Bool) (significand : Nat) (before : Int) : Scan Number := do
  skip
  let sign ← peek
  if sign = some '+' || sign = some '-' then skip
  match ← peek with
  | none => fail .endInValue
  | some c => if !c.isDigit then failNext .invalidNumber
  match exponentDigits 0 (← get) with
  | .error left =>
    set left
    if significand != 0 && sign != some '-' then fail .numberOutOfRange
    discard digits
    return .floating isNegative 0 0
  | .ok (n, left) =>
    set left
    floating isNegative significand (if sign = some '-' then before - n else before + n)

/-- Digits after the point, and an exponent if one follows. -/
def fraction (isNegative : Bool) (significand : Nat) (before : Int) : Scan Number := do
  skip
  let ds ← digits
  if ds.isEmpty then
    if (← peek).isSome then failNext .invalidNumber else fail .endInValue
  let (grown, left) := gather significand ds
  let after := before - ((ds.length : Int) - left.length)
  match ← peek with
  | some 'e' | some 'E' => exponent isNegative grown after
  | _ => floating isNegative grown after

/-- What may follow the whole part of a number. -/
def numberRest (isNegative : Bool) (significand : Nat) (left : List Char) : Scan Number := do
  match ← peek with
  | some '.' => fraction isNegative significand left.length
  | some 'e' | some 'E' => exponent isNegative significand left.length
  | _ =>
    if !left.isEmpty then floating isNegative significand left.length
    else if !isNegative then return .natural significand
    else if significand = 0 || Nat.pow 2 63 < significand then
      return .floating true significand 0
    else return .negative significand

/-- A number after its sign. A leading zero stands alone. -/
def unsigned (isNegative : Bool) : Scan Number := do
  match ← peek with
  | none => fail .endInValue
  | some '0' =>
    skip
    match ← peek with
    | some c => if c.isDigit then failNext .invalidNumber else numberRest isNegative 0 []
    | none => numberRest isNegative 0 []
  | some c =>
    if c.isDigit then
      let (significand, left) := gather 0 (← digits)
      numberRest isNegative significand left
    else failNext .invalidNumber

/-- A number. -/
def number : Scan Number := do
  if (← peek) = some '-' then
    skip
    unsigned true
  else unsigned false

/-! ### Strings -/

/-- The value of a digit in base sixteen. -/
def hexValue? (c : Char) : Option Nat :=
  if c.isDigit then some (c.toNat - 0x30)
  else if 'a' ≤ c && c ≤ 'f' then some (c.toNat - 0x57)
  else if 'A' ≤ c && c ≤ 'F' then some (c.toNat - 0x37)
  else none

/-- The number that four digits in base sixteen make. On failure the number of octets is given that
the fault takes in. -/
def fourDigits (cs : List Char) : Except (Cause × Nat) Nat :=
  match cs.take 4 |>.mapM hexValue? with
  | some [a, b, c, d] => .ok (((a * 16 + b) * 16 + c) * 16 + d)
  | _ =>
    if octets (cs.take 4) < 4 then .error (.endInString, octets cs) else .error (.invalidEscape, 4)

/-- The character that follows `\u`, and how many characters it is written with. One beyond the
first plane is written as two numbers of a pair. -/
def unicodeEscape (cs : List Char) : Except (Cause × Nat) (Char × Nat) := do
  let first ← fourDigits cs
  if 0xDC00 ≤ first && first ≤ 0xDFFF then throw (.loneSurrogate, 4)
  if first < 0xD800 || 0xDBFF < first then return (Char.ofNat first, 4)
  match cs.drop 4 with
  | [] => throw (.endInString, 4)
  | '\\' :: [] => throw (.endInString, 5)
  | '\\' :: 'u' :: rest =>
    match fourDigits rest with
    | .error (cause, n) => throw (cause, n + 6)
    | .ok second =>
      if second < 0xDC00 || 0xDFFF < second then throw (.loneSurrogate, 10)
      return (Char.ofNat ((first - 0xD800) * 0x400 + (second - 0xDC00) + 0x10000), 10)
  | '\\' :: _ => throw (.endOfHexEscape, 6)
  | _ => throw (.endOfHexEscape, 5)

/-- The character that a letter after a backslash stands for. -/
def letterEscape? (c : Char) : Option Char :=
  if c = '"' then some '"'
  else if c = '\\' then some '\\'
  else if c = '/' then some '/'
  else if c = 'b' then some '\x08'
  else if c = 'f' then some '\x0C'
  else if c = 'n' then some '\n'
  else if c = 'r' then some '\r'
  else if c = 't' then some '\t'
  else none

/-- The rest of a string after its first quote, put in reverse before `taken`. -/
def stringRest (taken : List Char) : List Char → Except Fault (List Char × List Char)
  | [] => .error ⟨.endInString, [], 0, false⟩
  | c :: cs =>
    if c = '"' then .ok (taken.reverse, cs)
    else if c = '\\' then
      match cs with
      | [] => .error ⟨.endInString, [], 0, false⟩
      | 'u' :: rest =>
        match unicodeEscape rest with
        | .error (cause, n) => .error ⟨cause, rest, n, false⟩
        | .ok (found, n) => stringRest (found :: taken) (rest.drop n)
      | letter :: rest =>
        match letterEscape? letter with
        | some found => stringRest (found :: taken) rest
        | none => .error ⟨.invalidEscape, letter :: rest, 1, false⟩
    else if c.toNat < 0x20 then .error ⟨.controlCharacter, cs, 0, false⟩
    else stringRest (c :: taken) cs
termination_by cs => cs.length
decreasing_by all_goals simp_all <;> omega

/-- A string, of which the first quote is the next character. -/
def string : Scan String := do
  let (value, rest) ← stringRest [] ((← get).drop 1)
  set rest
  return String.ofList value

/-! ### Objects and lists -/

/-- Whether a member follows. -/
def nextMember (isFirst : Bool) : Scan Bool := do
  match ← next with
  | none => fail .endInObject
  | some c =>
    if c = '\x7d' then return false
    else if isFirst then
      if c = '"' then return true else failNext .keyNotString
    else if c = ',' then
      skip
      match ← next with
      | none => fail .endInValue
      | some d =>
        if d = '"' then return true
        else if d = '\x7d' then failNext .trailingComma
        else failNext .keyNotString
    else failNext .expectedObjectNext

/-- Whether an item follows. -/
def nextItem (isFirst : Bool) : Scan Bool := do
  match ← next with
  | none => fail .endInList
  | some c =>
    if c = ']' then return false
    else if isFirst then return true
    else if c = ',' then
      skip
      match ← next with
      | none => fail .endInValue
      | some d => if d = ']' then failNext .trailingComma else return true
    else failNext .expectedListNext

/-- The colon between a key and its value. -/
def colon : Scan Unit := do
  match ← next with
  | none => fail .endInObject
  | some c => if c = ':' then skip else failNext .expectedColon

/-- Members up to the closing brace. Each takes a character or more, so `fuel` need not exceed the
length of the text. -/
def membersFrom (member : String → σ → Scan σ) : (fuel : Nat) → (isFirst : Bool) → σ → Scan σ
  | 0, _, s => return s
  | fuel + 1, isFirst, s => do
    if ← nextMember isFirst then
      let key ← string
      membersFrom member fuel false (← member key s)
    else return s

/-- Members up to the closing brace, each read by `member`. -/
def members (member : String → σ → Scan σ) (s : σ) : Scan σ := do
  membersFrom member ((← get).length + 1) true s

/-- Items up to the closing bracket. Each takes a character or more, so `fuel` need not exceed the
length of the text. -/
def itemsFrom (item : σ → Scan σ) : (fuel : Nat) → (isFirst : Bool) → σ → Scan σ
  | 0, _, s => return s
  | fuel + 1, isFirst, s => do
    if ← nextItem isFirst then itemsFrom item fuel false (← item s) else return s

/-- Items up to the closing bracket, each read by `item`. -/
def items (item : σ → Scan σ) (s : σ) : Scan σ := do
  itemsFrom item ((← get).length + 1) true s

/-- The closing brace. -/
def endObject : Scan Unit := do
  match ← next with
  | none => fail .endInObject
  | some c =>
    if c = '\x7d' then skip
    else if c = ',' then failNext .trailingComma
    else failNext .trailingCharacters

/-- The closing bracket. -/
def endList : Scan Unit := do
  match ← next with
  | none => fail .endInList
  | some c =>
    if c = ']' then skip
    else if c = ',' then
      skip
      match ← next with
      | some ']' => failNext .trailingComma
      | _ => failNext .trailingCharacters
    else failNext .trailingCharacters

/-- Where an open fault is settled: after the white space that follows, and after a closing brace or
bracket, or a comma between items. -/
def settled (close : Char) (left : List Char) : List Char :=
  match left.dropWhile isSpace with
  | c :: cs =>
    if c = close then cs
    else if c = ',' && close = ']' then cs.dropWhile isSpace
    else c :: cs
  | [] => []

/-- What stands between brackets of a kind. -/
def within (close : Char) (body : Scan α) : Scan α := fun cs =>
  match body cs with
  | .ok (a, rest) =>
    match (if close = ']' then endList else endObject) rest with
    | .ok (_, rest) => .ok (a, rest)
    | .error fault => .error fault
  | .error fault =>
    if fault.isOpen then .error ⟨fault.cause, settled close fault.left, 0, false⟩ else .error fault

/-- Opens brackets, unless that would be one nesting too many: `room` is the number of levels left.
-/
def enter (room : Nat) : Scan Unit := do
  if room ≤ 1 then failNext .recursionLimit else skip

/-- An object, with `room` levels left. -/
def object (room : Nat) (member : String → σ → Scan σ) (s : σ) : Scan σ := do
  enter room
  within '\x7d' (members member s)

/-- A list, with `room` levels left. -/
def list (room : Nat) (item : σ → Scan σ) (s : σ) : Scan σ := do
  enter room
  within ']' (items item s)

/-- How deep values may nest, one more than the levels that can be opened. -/
def maxRoom : Nat := 128

end Scan

/-- The whole text by one reader; only white space may follow. -/
def read {α : Type} (scan : Scan α) (text : String) : Except Failure α :=
  let whole : Scan α := do
    let a ← scan
    match ← Scan.next with
    | none => return a
    | some _ => Scan.failNext .trailingCharacters
  match whole text.toList with
  | .ok (a, _) => .ok a
  | .error fault => .error (fault.failure text.toList)

end SchemaFold.Json
