/-!
Contexts: the nested tables that a schema is folded into.

* `Context`: entries in order of first writing, each a text or a context of its own;
* `Context.get?`, `Context.keys`, `Context.toList`: how a context is read;
* `Context.put`: writes an entry, in place if the key is there, else at the end;
* `Context.setScalar`, `Context.setScalarChecked`, `Context.admits`: writing texts, and making room
  for nested contexts, with or without leave to replace what is there;
* `Context.equivalent`: the same entries at every level, in any order.

The entries are linked one to the next, so that one recursion goes through a context and all those
nested in it.
-/

namespace SchemaFold

/-- Entries in order: a key with a text, or a key with a context. -/
inductive Context
  | empty
  | scalar (key text : String) (rest : Context)
  | nested (key : String) (inner rest : Context)
  deriving DecidableEq, Repr, Inhabited

/-- What stands under a key. -/
inductive Value
  | scalar (text : String)
  | context (inner : Context)
  deriving DecidableEq, Repr

/-- The text of a value. -/
def Value.scalar? : Value → Option String
  | .scalar text => some text
  | .context _ => none

/-- The context of a value. -/
def Value.context? : Value → Option Context
  | .scalar _ => none
  | .context inner => some inner

namespace Context

/-- A context from its first entry and the rest. -/
def cons (key : String) : Value → Context → Context
  | .scalar text, rest => .scalar key text rest
  | .context inner, rest => .nested key inner rest

/-- The entries in order. -/
def toList : Context → List (String × Value)
  | .empty => []
  | .scalar key text rest => (key, .scalar text) :: rest.toList
  | .nested key inner rest => (key, .context inner) :: rest.toList

/-- A context with these entries. -/
def ofList (entries : List (String × Value)) : Context :=
  entries.foldr (fun entry rest => cons entry.1 entry.2 rest) .empty

/-- The keys in order. -/
def keys : Context → List String
  | .empty => []
  | .scalar key _ rest => key :: rest.keys
  | .nested key _ rest => key :: rest.keys

/-- The value under a key. -/
def get? (wanted : String) : Context → Option Value
  | .empty => none
  | .scalar key text rest => if key = wanted then some (.scalar text) else rest.get? wanted
  | .nested key inner rest => if key = wanted then some (.context inner) else rest.get? wanted

/-- The text under a key. -/
def scalar? (c : Context) (key : String) : Option String := (c.get? key).bind Value.scalar?

/-- The context under a key. -/
def context? (c : Context) (key : String) : Option Context := (c.get? key).bind Value.context?

/-- There is an entry for a key. -/
def contains (c : Context) (key : String) : Bool := (c.get? key).isSome

/-- The entries with texts, in order. -/
def scalars : Context → List (String × String)
  | .empty => []
  | .scalar key text rest => (key, text) :: rest.scalars
  | .nested _ _ rest => rest.scalars

/-- The entries with contexts, in order. -/
def contexts : Context → List (String × Context)
  | .empty => []
  | .scalar _ _ rest => rest.contexts
  | .nested key inner rest => (key, inner) :: rest.contexts

/-- The number of entries. -/
def size : Context → Nat
  | .empty => 0
  | .scalar _ _ rest => rest.size + 1
  | .nested _ _ rest => rest.size + 1

/-- There are no entries. -/
def isEmpty : Context → Bool
  | .empty => true
  | _ => false

/-- Writes an entry: in place of the one with the same key, or else at the end. -/
def put (written : String) (value : Value) : Context → Context
  | .empty => cons written value .empty
  | .scalar key text rest =>
    if key = written then cons written value rest else .scalar key text (rest.put written value)
  | .nested key inner rest =>
    if key = written then cons written value rest else .nested key inner (rest.put written value)

/-- Writes a text, over whatever is there. -/
def setScalar (c : Context) (key text : String) : Context := c.put key (.scalar text)

/-- What became of an attempt to write a text. -/
inductive ScalarAnswer
  | set
  | replaced
  | occupied
  deriving DecidableEq, Repr

/-- Writes a text. Over a nested context it is written only if `replace` is given. -/
def setScalarChecked (c : Context) (key text : String) (replace : Bool) :
    ScalarAnswer × Context :=
  match c.get? key with
  | some (.context _) =>
    if replace then (.replaced, c.put key (.scalar text)) else (.occupied, c)
  | _ => (.set, c.put key (.scalar text))

/-- What becomes of an attempt to put a new context under a key. -/
inductive NestedAnswer
  | inserted
  | replaced
  | occupied
  deriving DecidableEq, Repr

/-- A new context may go under a key that is free, and under any key if `replace` is given. -/
def admits (c : Context) (key : String) (replace : Bool) : NestedAnswer :=
  if !c.contains key then .inserted else if replace then .replaced else .occupied

/-- Puts a context under a key. -/
def putNested (c : Context) (key : String) (inner : Context) : Context :=
  c.put key (.context inner)

/-- Every entry of the first context is one of the second, contexts compared in the same way. -/
def entriesIn (other : Context) : Context → Bool
  | .empty => true
  | .scalar key text rest => other.get? key == some (.scalar text) && entriesIn other rest
  | .nested key inner rest =>
    (match other.context? key with
      | some found => inner.size == found.size && entriesIn found inner
      | none => false) && entriesIn other rest

/-- The same entries at every level, in any order; no level of either has a key twice. -/
def equivalent (a b : Context) : Bool := a.size == b.size && entriesIn b a

end Context

end SchemaFold
