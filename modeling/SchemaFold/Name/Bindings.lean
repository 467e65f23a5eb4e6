import SchemaFold.Keyed
import SchemaFold.Name.Basic
/-!
Namespace bindings: which URI a prefix stands for.

* `Bindings.standard`: only the prefix `xs`, bound to XML Schema;
* `Bindings.bind`: adds or changes a binding, but never that of `xs`;
* `Bindings.resolve`: the expanded name that a prefixed name stands for.

A prefix without a binding stands for no namespace.
-/

namespace SchemaFold

/-- Prefixes and their URIs, in order of first binding. -/
structure Bindings where
  entries : Keyed String
  deriving DecidableEq, Repr

namespace Bindings

/-- The prefix that always stands for XML Schema. -/
def reservedPrefix : String := "xs"

/-- The bindings before any is added. -/
def standard : Bindings := ⟨[(reservedPrefix, xsdNamespace)]⟩

/-- The URI of a prefix. -/
def uri? (b : Bindings) (pfx : String) : Option String := Keyed.get? pfx b.entries

/-- A prefix may be bound unless it is the reserved one. -/
def canBind (pfx : String) : Bool := pfx != reservedPrefix

/-- Binds a prefix; the reserved one keeps its URI. -/
def bind (b : Bindings) (pfx uri : String) : Bindings :=
  if canBind pfx then ⟨Keyed.put pfx uri b.entries⟩ else b

/-- The standard bindings with those of a list added in order. -/
def ofList (pairs : List (String × String)) : Bindings :=
  pairs.foldl (fun b pair => b.bind pair.1 pair.2) standard

/-- The bindings in order. -/
def toList (b : Bindings) : List (String × String) := b.entries

/-- The expanded name that a prefixed name stands for. -/
def resolve (b : Bindings) (name : String) : ExpandedName :=
  match Name.splitQName name with
  | (some pfx, rest) => ⟨b.uri? pfx, rest⟩
  | (none, rest) => ⟨none, rest⟩

/-- The same prefixes with the same URIs, in any order. -/
def sameAs (a b : Bindings) : Bool :=
  a.entries.length == b.entries.length &&
    a.entries.all (fun pair => b.uri? pair.1 == some pair.2)

end Bindings

end SchemaFold
