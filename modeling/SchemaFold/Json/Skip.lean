import SchemaFold.Json.Scan
/-!
Passing over a value whose content does not matter.

`Scan.skipValue` checks the form of the value and nothing else: numbers may be of any size, escapes
may name half of a pair, and values may nest without bound.
-/

namespace SchemaFold.Json.Scan

/-- The rest of a string after its first quote. -/
def skipStringRest : List Char → Except Fault (List Char)
  | [] => .error ⟨.endInString, [], 0, false⟩
  | c :: cs =>
    if c = '"' then .ok cs
    else if c = '\\' then
      match cs with
      | [] => .error ⟨.endInString, [], 0, false⟩
      | 'u' :: rest =>
        match fourDigits rest with
        | .error (cause, n) => .error ⟨cause, rest, n, false⟩
        | .ok _ => skipStringRest (rest.drop 4)
      | letter :: rest =>
        if (letterEscape? letter).isSome then skipStringRest rest
        else .error ⟨.invalidEscape, letter :: rest, 1, false⟩
    else if c.toNat < 0x20 then .error ⟨.controlCharacter, c :: cs, 0, false⟩
    else skipStringRest cs
termination_by cs => cs.length
decreasing_by all_goals simp_all <;> omega

/-- A string, of which the first quote is the next character. -/
def skipString : Scan Unit := do
  match skipStringRest ((← get).drop 1) with
  | .ok rest => set rest
  | .error fault => throw fault

/-- The exponent of a number. -/
def skipExponent : Scan Unit := do
  skip
  let sign ← peek
  if sign = some '+' || sign = some '-' then skip
  if (← digits).isEmpty then failNext .invalidNumber

/-- What may follow the whole part of a number. -/
def skipNumberRest : Scan Unit := do
  if (← peek) = some '.' then
    skip
    if (← digits).isEmpty then failNext .invalidNumber
  let c ← peek
  if c = some 'e' || c = some 'E' then skipExponent

/-- A number. -/
def skipNumber : Scan Unit := do
  if (← peek) = some '-' then skip
  if (← peek) = some '0' then
    skip
    if ((← peek).map Char.isDigit).getD false then failNext .invalidNumber
  else if (← digits).isEmpty then failNext .invalidNumber
  skipNumberRest

/-- A key and its colon. -/
def skipKey : Scan Unit := do
  match ← next with
  | none => fail .endInObject
  | some c =>
    if c = '"' then
      skipString
      colon
    else failNext .keyNotString

/-- Goes on inside the bracket `frame`, up to the next value or past the closing bracket. A comma is
accepted after a value only. Says whether a value is next. -/
def skipSeparator (frame : Char) (afterValue : Bool) : Scan Bool := do
  let isObject := frame = '\x7b'
  match ← next with
  | none => fail (if isObject then .endInObject else .endInList)
  | some c =>
    if c = (if isObject then '\x7d' else ']') then
      skip
      return false
    if afterValue then
      if c = ',' then skip
      else failNext (if isObject then .expectedObjectNext else .expectedListNext)
    if isObject then skipKey
    return true

mutual

/-- The next value, inside the brackets `frames`, and all that follows in them. -/
def skipFrom : (fuel : Nat) → (frames : List Char) → Scan Unit
  | 0, _ => return
  | fuel + 1, frames => do
    match ← next with
    | none => fail .endInValue
    | some c =>
      if c = '[' || c = '\x7b' then
        skip
        skipInside fuel (c :: frames) false
      else
        if c = 'n' then word "ull"
        else if c = 't' then word "rue"
        else if c = 'f' then word "alse"
        else if c = '-' || c.isDigit then skipNumber
        else if c = '"' then skipString
        else failNext .expectedValue
        skipInside fuel frames true

/-- What follows in the brackets `frames`, after a value or at the beginning of the innermost. -/
def skipInside : (fuel : Nat) → (frames : List Char) → (afterValue : Bool) → Scan Unit
  | 0, _, _ => return
  | _ + 1, [], _ => return
  | fuel + 1, frame :: outer, afterValue => do
    if ← skipSeparator frame afterValue then skipFrom fuel (frame :: outer)
    else skipInside fuel outer true

end

/-- A value. Each turn takes a character or more, apart from the last two, so the length of the text
bounds their number. -/
def skipValue : Scan Unit := do skipFrom (2 * (← get).length + 2) []

end SchemaFold.Json.Scan
