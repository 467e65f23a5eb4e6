import SchemaFold.Emit.Basic
import SchemaFold.Name.Basic
/-!
Emitting constructs by running a program for each.

* `Launcher`: runs a program with arguments and waits for its end;
* `Emitter.command`: runs a program with fixed arguments and the name of the construct.

Names reach a program only if they are XML names, so none can be taken for an option or a path.
-/

namespace SchemaFold

/-- Runs a program with arguments, in a state of the world around it. -/
abbrev Launcher (σ : Type) :=
  (program : String) → (arguments : List String) → σ → σ × Except Files.Fault ExitStatus

namespace Emitter

variable {σ : Type}

/-- What the end of a program means for the construct with a name. -/
def outcome (program name : String) : Except Files.Fault ExitStatus → Except Error Unit
  | .error fault => .error (.emit (.cannotRun program fault))
  | .ok status =>
    if status = .code 0 then .ok () else .error (.emit (.failed program status name))

/-- Runs a program for each construct. The name is the last argument. -/
def command (launch : Launcher σ) (program : String) (arguments : List String) : Emitter σ where
  emit name _ s :=
    match Name.validate name with
    | .error fault => (s, .fail (.namespaces fault))
    | .ok () =>
      let (next, ended) := launch program (arguments ++ [name]) s
      (next, ⟨[.running program name], outcome program name ended⟩)

end Emitter

end SchemaFold
