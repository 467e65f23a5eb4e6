import SchemaFold.Error
import SchemaFold.Source.Url
/-!
Where a schema comes from: a file on this machine, or a URL.

* `Source.parse`: takes a text for a URL if it is one, and for the path of a file otherwise;
* `Source.ofUrl`: takes a text for a URL, or fails.

What reads URLs is a parameter of both.
-/

namespace SchemaFold

/-- Where a schema comes from. -/
inductive Source
  | file (path : String)
  | remote (address : Url)
  deriving DecidableEq, Repr

namespace Source

/-- The source that a text names. URLs of files are paths; a single letter before a colon is a drive
and no scheme. -/
def parse (text : String) (readUrl : Url.Reader := Url.parse) : Except Error Source :=
  match readUrl text with
  | .error _ => .ok (.file text)
  | .ok address =>
    if address.scheme = "file" then
      match address.filePath? with
      | some path => .ok (.file path)
      | none => .error (.config (.notLocal text))
    else if 1 < address.scheme.utf8ByteSize then .ok (.remote address)
    else .ok (.file text)

/-- The URL that a text writes. -/
def ofUrl (text : String) (readUrl : Url.Reader := Url.parse) : Except Error Source :=
  match readUrl text with
  | .ok address => .ok (.remote address)
  | .error fault => .error (.url fault)

/-- The source is a URL. -/
def isRemote : Source → Bool
  | file _ => false
  | remote _ => true

/-- The source as text. -/
def text : Source → String
  | file path => path
  | remote address => address.text

end Source

end SchemaFold
