import SchemaFold.Source.Host
/-!
URLs.

* `Url`: the parts of a URL, each in its normal form;
* `Url.Reader`: what a run needs to know of URLs: the one that each text writes, or why it is none;
* `Url.parse`: reads a URL, mending what browsers mend;
* `Url.text`: the URL as text;
* `Url.filePath?`: the path of a local file.

The known schemes are those of the web, with a default port each, and `file`. In their URLs a
backslash counts as a slash and the path begins with a slash. Other schemes have a host only after
two slashes, and without any slash their path is opaque.

Domains in other scripts than that of ASCII are not read here. A reader that knows them may take the
place of `Url.parse` in every run.
-/

namespace SchemaFold

/-- The path of a URL: segments, or a text without structure. -/
inductive Url.Path
  | opaqueText (text : List Char)
  | segments (list : List (List Char))
  deriving DecidableEq, Repr

/-- The parts of a URL. -/
structure Url where
  scheme : String
  user : List Char
  password : List Char
  host : Option String
  port : Option Nat
  path : Url.Path
  query : Option (List Char)
  fragment : Option (List Char)
  deriving DecidableEq, Repr

namespace Url

/-- The URL that each text writes, or why it writes none. -/
abbrev Reader := String → Except Fault Url

/-! ### Character sets -/

/-- Controls. -/
def isControl (c : Char) : Bool := c.toNat < 0x20 || c.toNat = 0x7F

/-- What is escaped in a fragment. -/
def inFragment (c : Char) : Bool := isControl c || " \"<>`".toList.contains c

/-- What is escaped in a path. -/
def inPath (c : Char) : Bool := inFragment c || "#?\x7b\x7d".toList.contains c

/-- What is escaped in a user name or password. -/
def inUser (c : Char) : Bool := inPath c || "/:;=@[\\]^|".toList.contains c

/-- What is escaped in a query. -/
def inQuery (isSpecial : Bool) (c : Char) : Bool :=
  isControl c || " \"#<>".toList.contains c || (isSpecial && c == '\'')

/-! ### Schemes -/

/-- The default port of a scheme of the web. -/
def defaultPort? (scheme : String) : Option Nat :=
  if scheme = "http" || scheme = "ws" then some 80
  else if scheme = "https" || scheme = "wss" then some 443
  else if scheme = "ftp" then some 21
  else none

/-- A scheme of the web, or `file`. -/
def isSpecialScheme (scheme : String) : Bool := (defaultPort? scheme).isSome || scheme == "file"

/-- A character of a scheme after the first. -/
def isSchemeChar (c : Char) : Bool := c.isAlphanum || c == '+' || c == '-' || c == '.'

/-- The scheme that a text begins with, in lower case, and what follows its colon. -/
def cutScheme? (cs : List Char) : Option (String × List Char) :=
  match cs with
  | c :: _ =>
    if c.isAlpha then
      match Text.cutChars ':' cs with
      | some (scheme, rest) =>
        if scheme.all isSchemeChar then some (String.ofList (scheme.map Char.toLower), rest)
        else none
      | none => none
    else none
  | [] => none

/-! ### Paths -/

/-- What ends a segment. -/
def isSlash (isSpecial : Bool) (c : Char) : Bool := c == '/' || (isSpecial && c == '\\')

/-- What ends a path. -/
def endsPath (c : Char) : Bool := c == '?' || c == '#'

/-- The pieces between slashes. -/
def pieces (isSpecial : Bool) (cs : List Char) : List (List Char) :=
  Text.splitChars '/' (cs.map (fun c => if isSlash isSpecial c then '/' else c))

/-- A dot, which may be in percent notation, at the front. -/
def dropDot? (cs : List Char) : Option (List Char) :=
  match cs with
  | '.' :: rest => some rest
  | '%' :: '2' :: c :: rest => if c = 'e' || c = 'E' then some rest else none
  | _ => none

/-- A segment that means the place itself. -/
def isSingleDot (cs : List Char) : Bool := dropDot? cs == some []

/-- A segment that means the place above. -/
def isDoubleDot (cs : List Char) : Bool := (dropDot? cs).bind dropDot? == some []

/-- A letter and a colon or bar, as drives are written. -/
def isDrive (cs : List Char) : Bool :=
  match cs with
  | [letter, mark] => letter.isAlpha && (mark == ':' || mark == '|')
  | _ => false

/-- A drive in its normal form. -/
def normalDrive (cs : List Char) : List Char :=
  match cs with
  | letter :: _ => [letter, ':']
  | [] => []

/-- The segments, in reverse, without the last one; a drive stays. -/
def shorten (before : List (List Char)) : List (List Char) :=
  match before with
  | [] => []
  | last :: rest => if isDrive last then last :: rest else rest

/-- Adds pieces to the segments `before`, which are in reverse. The last piece, when it is a dot
segment, leaves an empty segment. -/
def addPieces (isFile : Bool) : (before pieces : List (List Char)) → List (List Char)
  | before, [] => before.reverse
  | before, piece :: more =>
    let isLast := more.isEmpty
    let close := fun list : List (List Char) => if isLast then [] :: list else list
    let next :=
      if isDoubleDot piece then close (shorten before)
      else if isSingleDot piece then close before
      else if isFile && before.isEmpty && isDrive piece then normalDrive piece :: before
      else piece :: before
    addPieces isFile next more

/-- The segments of a path, which may begin with a slash. -/
def segmentsOf (isSpecial isFile : Bool) (cs : List Char) : List (List Char) :=
  let cs := match cs with
    | c :: rest => if isSlash isSpecial c then rest else c :: rest
    | [] => []
  addPieces isFile [] ((pieces isSpecial cs).map (Octets.percentEncode inPath))

/-- A path of a file has no empty segments at the front, unless there is nothing else. -/
def withoutEmpty (segments : List (List Char)) : List (List Char) :=
  match segments.dropWhile List.isEmpty with
  | [] => [[]]
  | kept => kept

/-! ### Authority -/

/-- Cuts at the last `@`. -/
def cutUser (cs : List Char) : Option (List Char × List Char) :=
  (Text.cutChars '@' cs.reverse).map (fun parts => (parts.2.reverse, parts.1.reverse))

/-- The user name and the password. -/
def userParts (cs : List Char) : List Char × List Char :=
  let encode := Octets.percentEncode inUser
  match Text.cutChars ':' cs with
  | some (user, password) => (encode user, encode password)
  | none => (encode cs, [])

/-- The host and what follows it; a colon between brackets is part of the host. -/
def cutHost : (inBrackets : Bool) → List Char → List Char × List Char
  | _, [] => ([], [])
  | inBrackets, c :: cs =>
    if c = ':' && !inBrackets then ([], c :: cs)
    else
      let inside := if c = '[' then true else if c = ']' then false else inBrackets
      let (host, rest) := cutHost inside cs
      (c :: host, rest)

/-- The port of an authority, and what follows a backslash in it: there the path begins. -/
def cutPort (cs : List Char) : List Char × List Char :=
  (cs.takeWhile (· != '\\'), cs.dropWhile (· != '\\'))

/-- The port of an authority, if it is not the default one. -/
def portOf (scheme : String) (cs : List Char) : Except Fault (Option Nat) :=
  match cs with
  | [] => .ok none
  | _ :: digits =>
    if !digits.all Char.isDigit then .error .invalidPort
    else if digits.isEmpty then .ok none
    else
      match Host.number? 10 digits with
      | some n =>
        if 65535 < n then .error .invalidPort
        else .ok (if some n = defaultPort? scheme then none else some n)
      | none => .error .invalidPort

/-- The authority of a URL that is no file: user, host and port, and the beginning of a path that is
not part of it. -/
def authority (scheme : String) (cs : List Char) (base : Url) : Except Fault (Url × List Char) := do
  let isSpecial := isSpecialScheme scheme
  let (userInfo, rest) := match cutUser cs with
    | some (user, rest) => (user, rest)
    | none => ([], cs)
  let (user, password) := userParts userInfo
  let (hostText, portText) := cutHost false rest
  if hostText.isEmpty && (isSpecial || !portText.isEmpty) then throw .emptyHost
  let host ← if isSpecial then Host.parse hostText else Host.parseOpaque hostText
  let (portText, more) := cutPort portText
  let port ← portOf scheme portText
  if host.isEmpty && !(user.isEmpty && password.isEmpty) then throw .emptyHost
  return ({ base with user, password, host := some host, port }, more)

/-- The host of a file URL: none if it is empty or the local one. -/
def fileHost (cs : List Char) : Except Fault String := do
  if cs.isEmpty then return ""
  let host ← Host.parse cs
  return if host = "localhost" then "" else host

/-! ### The whole -/

/-- The query and the fragment that follow a path. -/
def addRest (url : Url) (cs : List Char) : Url :=
  let (queryText, fragmentText) := match Text.cutChars '#' cs with
    | some (before, after) => (before, some after)
    | none => (cs, none)
  let query := match queryText with
    | _ :: text => some (Octets.percentEncode (inQuery (isSpecialScheme url.scheme)) text)
    | [] => none
  { url with query, fragment := fragmentText.map (Octets.percentEncode inFragment) }

/-- Cuts a text where property `p` begins to hold. -/
def cutWhere (p : Char → Bool) (cs : List Char) : List Char × List Char :=
  (cs.takeWhile (fun c => !p c), cs.dropWhile (fun c => !p c))

/-- A URL of a scheme, without any other part. -/
def bare (scheme : String) : Url := ⟨scheme, [], [], none, none, .segments [], none, none⟩

/-- What follows the scheme of a file URL. -/
def parseFile (cs : List Char) : Except Fault Url := do
  let slash := isSlash true
  let (hostText, rest) := match cs with
    | a :: b :: rest => if slash a && slash b then
        let (host, after) := cutWhere (fun c => slash c || endsPath c) rest
        if isDrive host then ([], rest) else (host, after)
      else ([], cs)
    | cs => ([], cs)
  let host ← fileHost hostText
  let (pathText, after) := cutWhere endsPath rest
  let segments := segmentsOf true true pathText
  let host := if segments.head?.any isDrive then "" else host
  let path := Path.segments (withoutEmpty segments)
  return addRest { bare "file" with host := some host, path } after

/-- What follows the slashes of a URL that is no file. -/
def parseAuthority (scheme : String) (cs : List Char) : Except Fault Url := do
  let isSpecial := isSpecialScheme scheme
  let (authorityText, rest) := cutWhere (fun c => isSlash isSpecial c || endsPath c) cs
  if authorityText = ['@'] && !rest.isEmpty then throw .emptyHost
  let (url, more) ← authority scheme authorityText (bare scheme)
  let (pathText, after) := cutWhere endsPath (more ++ rest)
  let segments := if pathText.isEmpty && !isSpecial then [] else segmentsOf isSpecial false pathText
  return addRest { url with path := .segments segments } after

/-- What follows the scheme of another URL. -/
def parseOther (scheme : String) (cs : List Char) : Except Fault Url :=
  match cs with
  | '/' :: '/' :: rest => parseAuthority scheme rest
  | '/' :: _ =>
    let (pathText, after) := cutWhere endsPath cs
    .ok (addRest { bare scheme with path := .segments (segmentsOf false false pathText) } after)
  | cs =>
    let (text, after) := cutWhere endsPath cs
    let path := Path.opaqueText (Octets.percentEncode isControl text)
    .ok (addRest { bare scheme with path } after)

/-- The text without controls and spaces at its ends, and without tabs and line ends. -/
def cleaned (text : String) : List Char :=
  let isEdge := fun c : Char => c.toNat ≤ 0x20
  let inner := ((text.toList.dropWhile isEdge).reverse.dropWhile isEdge).reverse
  inner.filter (fun c => !(c == '\t' || c == '\n' || c == '\r'))

/-- Reads a URL whose domain, if it has one, is one of ASCII. -/
def parse (text : String) : Except Fault Url :=
  match cutScheme? (cleaned text) with
  | none => .error .relativeWithoutBase
  | some (scheme, rest) =>
    if scheme = "file" then parseFile rest
    else if isSpecialScheme scheme then parseAuthority scheme (rest.dropWhile (isSlash true))
    else parseOther scheme rest

/-- The path as text. -/
def pathChars (url : Url) : List Char :=
  match url.path with
  | .opaqueText text => text
  | .segments list => list.flatMap (fun segment => '/' :: segment)

/-- User, host and port as text. -/
def authorityText (url : Url) : String :=
  let password := if url.password.isEmpty then "" else ":" ++ String.ofList url.password
  let user := String.ofList url.user ++ password
  let host := url.host.getD ""
  (if user.isEmpty then "" else user ++ "@") ++ host ++
    (match url.port with
      | some n => ":" ++ toString n
      | none => "")

/-- The URL as text. Without a host, a path does not begin with two slashes. -/
def text (url : Url) : String :=
  let path := pathChars url
  let start :=
    if url.host.isSome then "//" ++ authorityText url
    else if "//".toList.isPrefixOf path then "/."
    else ""
  url.scheme ++ ":" ++ start ++ String.ofList path ++
    (match url.query with
      | some q => "?" ++ String.ofList q
      | none => "") ++
    (match url.fragment with
      | some f => "#" ++ String.ofList f
      | none => "")

/-- The path of a file on this machine. A drive alone gets a slash at its end. -/
def filePath? (url : Url) : Option String :=
  match url.path, url.host with
  | .segments list, host =>
    if (host.getD "").isEmpty then
      let octets := list.flatMap (fun segment => 0x2F :: Octets.percentDecode segment)
      let isDriveEnd := match octets.reverse with
        | mark :: letter :: _ :: _ => (Char.ofNat letter).isAlpha && (mark == 0x3A || mark == 0x7C)
        | _ => false
      some (Octets.decodeLossy (if isDriveEnd then octets ++ [0x2F] else octets))
    else none
  | .opaqueText _, _ => none

end Url

end SchemaFold
