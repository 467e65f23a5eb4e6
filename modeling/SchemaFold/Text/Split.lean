/-!
Cutting a text at a character.

* `cutAt`: the parts before and after the first occurrence of a character, if it occurs;
* `dropPrefix?`, `startsWith`: what follows a given beginning, and whether it is there.
-/

namespace SchemaFold.Text

/-- The characters before and after the first `mark`. -/
def cutChars (mark : Char) : List Char → Option (List Char × List Char)
  | [] => none
  | c :: cs =>
    if c = mark then some ([], cs)
    else (cutChars mark cs).map (fun parts => (c :: parts.1, parts.2))

/-- The texts before and after the first `mark`. -/
def cutAt (mark : Char) (s : String) : Option (String × String) :=
  (cutChars mark s.toList).map (fun parts => (String.ofList parts.1, String.ofList parts.2))

/-- What follows `start` in `cs`, if `cs` begins with it. -/
def dropPrefix? : (start cs : List Char) → Option (List Char)
  | [], cs => some cs
  | _ :: _, [] => none
  | a :: start, c :: cs => if a = c then dropPrefix? start cs else none

/-- A text begins with another one. -/
def startsWith (start s : String) : Bool := (dropPrefix? start.toList s.toList).isSome

/-- The maximal pieces without `mark`, empty ones included: one more than there are marks. -/
def splitChars (mark : Char) : List Char → List (List Char)
  | [] => [[]]
  | c :: cs =>
    match splitChars mark cs with
    | [] => [[c]]
    | piece :: pieces => if c = mark then [] :: piece :: pieces else (c :: piece) :: pieces

end SchemaFold.Text
