import SchemaFold.Context.Basic
import SchemaFold.Log
/-!
Emitters: what the constructs of a model are handed to.

* `Emitter`: a machine with a state of its own, which takes one construct at a time and may fail;
* `Emitter.emitAll`: hands over constructs in order, up to the first failure.
-/

namespace SchemaFold

/-- Takes a construct with its name, in a state. The next state counts also after a failure. -/
structure Emitter (σ : Type) where
  emit : (name : String) → (construct : Context) → σ → σ × Act Unit

namespace Emitter

variable {σ : Type}

/-- Hands over constructs in order, each with an event before it, up to the first failure. -/
def emitAll (emitter : Emitter σ) : List (String × Context) → σ → σ × Act Unit
  | [], s => (s, .done ())
  | (name, construct) :: rest, s =>
    let (next, act) := emitter.emit name construct s
    match act.result with
    | .error e => (next, ⟨.emitting name :: act.log, .error e⟩)
    | .ok () =>
      let (last, after) := emitAll emitter rest next
      (last, ⟨.emitting name :: act.log ++ after.log, after.result⟩)

end Emitter

end SchemaFold
