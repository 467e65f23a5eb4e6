import SchemaFold.Text.Letter
import SchemaFold.Text.Split
/-!
Names: plain names (NCName), names with an optional prefix (QName), and expanded names.

* `isNCName`, `isQName`: the two syntaxes, on letters and numbers of all scripts;
* `splitQName`: prefix and local part, at the first colon;
* `ExpandedName`: a local name with the URI of its namespace, which is what names are compared by.
-/

namespace SchemaFold

/-- The namespace of XML Schema. -/
def xsdNamespace : String := "http://www.w3.org/2001/XMLSchema"

namespace Name

/-- The characters that begin a plain name. -/
def isStart (c : Char) : Bool := Text.isLetter c || c == '_'

/-- The characters that continue a plain name. -/
def isRest (c : Char) : Bool :=
  Text.isLetter c || Text.isNumber c || c == '_' || c == '-' || c == '.' || c == '\u00B7'

/-- The syntax of a plain name, on characters. -/
def isNCNameChars : List Char → Bool
  | [] => false
  | c :: cs => isStart c && cs.all isRest

/-- The syntax of a plain name: a letter or underscore, then letters, numbers, `_`, `-`, `.` and
the middle dot. -/
def isNCName (s : String) : Bool := isNCNameChars s.toList

/-- The prefix, if there is a colon, and what follows the first colon. -/
def splitQName (s : String) : Option String × String :=
  match Text.cutAt ':' s with
  | some (pfx, rest) => (some pfx, rest)
  | none => (none, s)

/-- A plain name, or two of them joined by a colon. -/
def isQName (s : String) : Bool :=
  match splitQName s with
  | (some pfx, rest) => isNCName pfx && isNCName rest
  | (none, rest) => isNCName rest

/-- The name without its prefix. -/
def localPart (s : String) : String := (splitQName s).2

/-- What can be wrong with a name that a user gives. -/
inductive Fault
  | invalidQName (name : String)
  | invalidPrefix (pfx : String)
  deriving DecidableEq, Repr

/-- The wording of a fault. -/
def Fault.message : Fault → String
  | .invalidQName name => "Invalid QName: '" ++ name ++ "'"
  | .invalidPrefix pfx => "invalid namespace prefix '" ++ pfx ++ "'"

/-- Accepts the names with the syntax of `isQName`. -/
def validate (s : String) : Except Fault Unit :=
  if isQName s then .ok () else .error (.invalidQName s)

end Name

/-- A local name and the namespace it belongs to, if any. -/
structure ExpandedName where
  uri : Option String
  localName : String
  deriving DecidableEq, Repr, Inhabited

namespace ExpandedName

/-- The form with the URI in braces before the local name. -/
def text (name : ExpandedName) : String :=
  match name.uri with
  | some uri => String.join ["\x7b", uri, "\x7d", name.localName]
  | none => name.localName

/-- The name `localName` of XML Schema. -/
def isXsd (name : ExpandedName) (localName : String) : Bool :=
  name.uri == some xsdNamespace && name.localName == localName

end ExpandedName

end SchemaFold
