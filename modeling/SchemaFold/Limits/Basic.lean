/-!
Bounds on what a run accepts: nesting of elements, size of the text, attributes of one element.

* `Limits`: the three bounds, with the presets `standard`, `strict` and `permissive`;
* `Limits.checkDepth`, `checkSize`, `checkAttributes`: a measure passes up to and including its
  bound.
-/

namespace SchemaFold

/-- A measure that went over its bound. -/
inductive LimitFault
  | depth (found bound : Nat)
  | size (found bound : Nat)
  | attributes (found bound : Nat)
  deriving DecidableEq, Repr

/-- The wording of a fault. -/
def LimitFault.message : LimitFault → String
  | .depth found bound =>
    "XML depth " ++ toString found ++ " exceeds maximum " ++ toString bound
  | .size found bound =>
    "XML size " ++ toString found ++ " bytes exceeds maximum " ++ toString bound ++ " bytes"
  | .attributes found bound =>
    "Attribute count " ++ toString found ++ " exceeds maximum " ++ toString bound

/-- The bounds of a run. -/
structure Limits where
  depth : Nat
  size : Nat
  attributes : Nat
  deriving DecidableEq, Repr

namespace Limits

/-- The bounds that hold unless others are given. -/
def standard : Limits := ⟨256, 100 * 1024 * 1024, 1000⟩

/-- Bounds for input from strangers. -/
def strict : Limits := ⟨64, 10 * 1024 * 1024, 100⟩

/-- Bounds for large schemas of one's own. -/
def permissive : Limits := ⟨4096, 1024 * 1024 * 1024, 10000⟩

/-- An element at nesting depth `found` passes. -/
def checkDepth (limits : Limits) (found : Nat) : Except LimitFault Unit :=
  if limits.depth < found then .error (.depth found limits.depth) else .ok ()

/-- A text of `found` bytes passes. -/
def checkSize (limits : Limits) (found : Nat) : Except LimitFault Unit :=
  if limits.size < found then .error (.size found limits.size) else .ok ()

/-- An element with `found` attributes passes. -/
def checkAttributes (limits : Limits) (found : Nat) : Except LimitFault Unit :=
  if limits.attributes < found then .error (.attributes found limits.attributes) else .ok ()

end Limits

end SchemaFold
