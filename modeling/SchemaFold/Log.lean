import SchemaFold.Error
/-!
Events: what a run reports as it goes.

* `Level`: how grave an event is;
* `Event`: the events, each with a level, a source, a message and named values;
* `Act`: a computation that reports events and then answers or fails. What it has reported before it
  fails is kept.
-/

namespace SchemaFold

open Text (Position)

/-- How grave an event is. -/
inductive Level
  | error
  | warn
  | info
  | debug
  | trace
  deriving DecidableEq, Repr

namespace Level

/-- The rank of a level, the gravest first. -/
def rank : Level → Nat
  | .error => 1
  | .warn => 2
  | .info => 3
  | .debug => 4
  | .trace => 5

/-- The name of a level. -/
def text : Level → String
  | .error => "ERROR"
  | .warn => "WARN"
  | .info => "INFO"
  | .debug => "DEBUG"
  | .trace => "TRACE"

end Level

/-- What is reported. -/
inductive Event
  | reservedPrefix
  | unnamedSkipped (element : String) (location : Position)
  | folded (element : String)
  | dispatched (element : String)
  | scalarReplaces (key : String) (location : Position)
  | constructReplaced (key : String) (location : Position)
  | loading (source : String)
  | transformed (constructs : Nat)
  | reading (path : String)
  | emitting (name : String)
  | running (program name : String)
  deriving DecidableEq, Repr

/-- A value of an event. Labels are names out of a schema; the rest is shown as it is. -/
inductive FieldValue
  | label (text : String)
  | program (text : String)
  | plain (text : String)
  deriving DecidableEq, Repr

namespace Event

/-- The level of an event. -/
def level : Event → Level
  | .reservedPrefix | .unnamedSkipped .. | .scalarReplaces .. | .constructReplaced .. => .warn
  | .loading _ | .transformed _ => .info
  | .folded _ | .reading _ | .emitting _ | .running .. => .debug
  | .dispatched _ => .trace

/-- The part of the program that an event comes from. -/
def source : Event → String
  | .reservedPrefix => "xsdgen::namespaces"
  | .unnamedSkipped .. => "xsdgen::dispatch"
  | .folded _ | .dispatched _ | .scalarReplaces .. | .constructReplaced .. => "xsdgen::transform"
  | .loading _ | .transformed _ | .emitting _ => "xsdgen::driver"
  | .reading _ => "xsdgen::loaders"
  | .running .. => "xsdgen::emit"

/-- The wording of an event. -/
def message : Event → String
  | .reservedPrefix => "ignoring user binding for the reserved 'xs' prefix"
  | .unnamedSkipped .. => "skipping construct without 'name' or 'ref'"
  | .folded _ => "no rule, folding into parent context"
  | .dispatched _ => "dispatch"
  | .scalarReplaces .. => "duplicate key, scalar replaces a nested construct"
  | .constructReplaced .. => "duplicate key, keeping the later construct"
  | .loading _ => "loading schema"
  | .transformed _ => "schema transformed"
  | .reading _ => "reading schema file"
  | .emitting _ => "emitting construct"
  | .running .. => "running generator"

/-- The named values of an event, in order. -/
def fields : Event → List (String × FieldValue)
  | .reservedPrefix => []
  | .unnamedSkipped element location =>
    [("element", .label element), ("location", .plain location.text)]
  | .folded element | .dispatched element => [("element", .label element)]
  | .scalarReplaces key location | .constructReplaced key location =>
    [("key", .label key), ("location", .plain location.text)]
  | .loading source => [("source", .plain source)]
  | .transformed constructs => [("constructs", .plain (toString constructs))]
  | .reading path => [("path", .plain path)]
  | .emitting name => [("name", .label name)]
  | .running program name => [("program", .program program), ("name", .label name)]

end Event

/-- Events in order, and then an answer or an error. -/
structure Act (α : Type) where
  log : List Event
  result : Except Error α

namespace Act

variable {α β : Type}

/-- An answer, and nothing reported. -/
def done (a : α) : Act α := ⟨[], .ok a⟩

/-- An error, and nothing reported. -/
def fail (e : Error) : Act α := ⟨[], .error e⟩

/-- One event. -/
def report (event : Event) : Act Unit := ⟨[event], .ok ()⟩

/-- An answer or an error, and nothing reported. -/
def ofExcept (result : Except Error α) : Act α := ⟨[], result⟩

/-- One computation after another. The second is left out if the first fails. -/
def andThen (first : Act α) (second : α → Act β) : Act β :=
  match first.result with
  | .ok a =>
    let act := second a
    ⟨first.log ++ act.log, act.result⟩
  | .error e => ⟨first.log, .error e⟩

instance : Monad Act where
  pure := done
  bind := andThen

end Act

end SchemaFold
