import SchemaFold.Source.Fault
import SchemaFold.Text.Split
/-!
A directory tree as a value, and what reading a path in it answers.

* `Files`: the entries below the directory at hand;
* `Files.Reader`: what a run needs to know of files: the text under each path, or why there is none;
* `Files.find`: follows a path, part by part;
* `Files.reader`: the reader of a tree.

Nothing is known outside of the tree: absolute paths and those that leave it upwards find nothing
there.
-/

namespace SchemaFold

/-- A file with its content, or a directory. -/
inductive Files.Entry
  | file (content : ByteArray)
  | directory

/-- The entries of a tree, each with the names on the way to it. -/
structure Files where
  entries : List (List String × Files.Entry)

namespace Files

/-- The text under each path, or why there is none. -/
abbrev Reader := String → Except Fault String

/-- A directory with nothing in it. -/
def empty : Files := ⟨[]⟩

/-- The parts of a path between slashes. -/
def parts (path : String) : List String := (Text.splitChars '/' path.toList).map String.ofList

/-- The entry with these names on the way to it; a directory also if only something below it is
listed. -/
def entry? (files : Files) (way : List String) : Option Entry :=
  match files.entries.find? (fun e => e.1 == way) with
  | some e => some e.2
  | none =>
    if way.isEmpty || files.entries.any (fun e => way.isPrefixOf e.1) then some .directory else none

/-- The tree with an entry under a path, in place of what is there. -/
def insert (files : Files) (path : String) (entry : Entry) : Files :=
  let way := (parts path).filter (fun part => !(part.isEmpty || part == "."))
  ⟨files.entries.filter (fun e => e.1 != way) ++ [(way, entry)]⟩

/-- The length of the longest name that an entry can have, in bytes. -/
def maxName : Nat := 255

/-- The least length that no path can have, in bytes. -/
def maxPath : Nat := 4096

/-- Where a path has led so far: to an entry of the tree, or to a directory outside. -/
inductive Spot
  | inside (way : List String) (entry : Entry)
  | outside

/-- Goes on by one part. -/
def step (files : Files) (spot : Spot) (part : String) : Except Fault Spot :=
  match spot with
  | .inside _ (.file _) => .error .notDirectory
  | .inside way .directory =>
    if part.isEmpty || part == "." then .ok spot
    else if part == ".." then
      .ok (if way.isEmpty then .outside else .inside way.dropLast .directory)
    else if maxName < part.utf8ByteSize then .error .nameTooLong
    else
      match files.entry? (way ++ [part]) with
      | some entry => .ok (.inside (way ++ [part]) entry)
      | none => .error .notFound
  | .outside =>
    if part.isEmpty || part == "." || part == ".." then .ok .outside
    else if maxName < part.utf8ByteSize then .error .nameTooLong
    else .error .notFound

/-- What a path leads to. -/
def find (files : Files) (path : String) : Except Fault Spot :=
  if path.toList.contains '\x00' then .error .nulInPath
  else if path.isEmpty then .error .notFound
  else if maxPath ≤ path.utf8ByteSize then .error .nameTooLong
  else
    let start := if path.toList.head? = some '/' then Spot.outside else .inside [] .directory
    (parts path).foldlM files.step start

/-- The content of the file that a path leads to. -/
def content (files : Files) (path : String) : Except Fault ByteArray := do
  match ← files.find path with
  | .inside _ (.file content) => return content
  | _ => throw .isDirectory

/-- Content as text. -/
def decode (content : ByteArray) : Except Fault String :=
  match String.fromUTF8? content with
  | some text => .ok text
  | none => .error .notUtf8

/-- The reader of a tree. -/
def reader (files : Files) : Reader := fun path => do decode (← files.content path)

end Files

end SchemaFold
