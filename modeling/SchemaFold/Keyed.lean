/-!
Lists of pairs that are read as tables: one value for a key, in the order in which the keys were
first written.

* `Keyed.get?`: the value under a key;
* `Keyed.put`: writes a value, in place if the key is there, else at the end.
-/

namespace SchemaFold

/-- A table as a list of keys and values. -/
abbrev Keyed (α : Type) := List (String × α)

namespace Keyed

variable {α : Type}

/-- The value under `key`. -/
def get? (key : String) : Keyed α → Option α
  | [] => none
  | (k, v) :: rest => if k = key then some v else get? key rest

/-- Writes `value` under `key`, keeping the place of a key that is there. -/
def put (key : String) (value : α) : Keyed α → Keyed α
  | [] => [(key, value)]
  | (k, v) :: rest => if k = key then (k, value) :: rest else (k, v) :: put key value rest

/-- The keys in order. -/
def keys (table : Keyed α) : List String := table.map (·.1)

end Keyed

end SchemaFold
