import SchemaFold.Rule.Table
/-!
The fold of an element tree into a context.

`Content.fold` goes through the children of a place in document order. Every element child has its
attributes copied and its own children folded; where they go is up to the rule for the child:

* no rule: into the context at hand;
* a rule: its hook before says which texts to write, and whether the child goes into the context at
  hand, into a new one under a key, or nowhere; its hook after may write texts once the child is
  done.

`Place.fold` does the same for the element (or any other node) that a fold starts from. Its answer
is a `Run`: the context that is left, which also after an error has all that was written before it.
-/

namespace SchemaFold

open Text (Position)
open Xml (Attribute Content Place StartTag)

/-! ### Runs -/

/-- What is left of a context, what was reported, and whether an error ended it. -/
structure Run where
  context : Context
  log : List Event
  result : Except Error Unit

namespace Run

variable {α : Type}

/-- Nothing happens. -/
def done (context : Context) : Run := ⟨context, [], .ok ()⟩

/-- Events are reported. -/
def report (events : List Event) (context : Context) : Run := ⟨context, events, .ok ()⟩

/-- An error ends the run. -/
def fail (context : Context) (e : Error) : Run := ⟨context, [], .error e⟩

/-- One run after another, on the context that the first leaves. The second is left out if the first
fails. -/
def andThen (first : Run) (second : Context → Run) : Run :=
  match first.result with
  | .error _ => first
  | .ok () =>
    let next := second first.context
    ⟨next.context, first.log ++ next.log, next.result⟩

/-- Goes on with the answer to a question that leaves the context as it is. -/
def ask (context : Context) (question : Act α) (next : α → Run) : Run :=
  match question.result with
  | .error e => ⟨context, question.log, .error e⟩
  | .ok a =>
    let run := next a
    ⟨run.context, question.log ++ run.log, run.result⟩

/-- Puts the context that a run leaves under a key of an outer one, also after an error. -/
def under (run : Run) (outer : Context) (key : String) (events : List Event) : Run :=
  ⟨outer.putNested key run.context, events ++ run.log, run.result⟩

end Run

/-! ### Writing to a context -/

/-- Writes the attributes that are not ignored, under their local names. -/
def Context.copyAttributes (ignored : List String) : List Attribute → Context → Context
  | [], c => c
  | a :: rest, c =>
    copyAttributes ignored rest
      (if ignored.contains a.name.localName then c else c.setScalar a.name.localName a.value)

/-- The element that something is written for, as events and errors name it. -/
structure Site where
  element : String
  location : Position
  deriving DecidableEq, Repr

/-- The site of the element at a place. -/
def Xml.Place.site (place : Place) : Site := ⟨place.localName, place.location⟩

namespace Fold

/-- Writes a text for the element at a site. A nested context that is in its way is replaced if
`replaces` is given, and else a duplicate. -/
def writeScalar (replaces : Bool) (site : Site) (entry : String × String) (c : Context) : Run :=
  match c.setScalarChecked entry.1 entry.2 replaces with
  | (.set, written) => .done written
  | (.replaced, written) => .report [.scalarReplaces entry.1 site.location] written
  | (.occupied, _) => .fail c (.duplicateKey entry.1 site.element site.location)

/-- Writes texts in order. -/
def writeScalars (replaces : Bool) (site : Site) : List (String × String) → Context → Run
  | [], c => .done c
  | entry :: rest, c =>
    (writeScalar replaces site entry c).andThen (writeScalars replaces site rest)

/-- Folds the element at a site into a new context under a key. A key that is taken is replaced if
`replaces` is given, and else a duplicate. -/
def nest (replaces : Bool) (site : Site) (key : String) (fill : Context → Run) (c : Context) :
    Run :=
  match c.admits key replaces with
  | .inserted => (fill .empty).under c key []
  | .replaced => (fill .empty).under c key [.constructReplaced key site.location]
  | .occupied => .fail c (.duplicateKey key site.element site.location)

/-- Enters an element at a depth: checks the bound, copies the attributes and goes on inside. -/
def enter (options : Options) (ignored : List String) (attributes : List Attribute) (depth : Nat)
    (inside : Context → Run) (c : Context) : Run :=
  match options.limits.checkDepth depth with
  | .error fault => .fail c (.limitExceeded fault)
  | .ok () => inside (c.copyAttributes ignored attributes)

/-- What the hook before says; without one the element goes into the context at hand. -/
def descentOf (rule : Rule) (options : Options) (c : Context) (place : Place) : Act Descent :=
  match rule.before with
  | some hook => hook options c place
  | none => .done .current

/-- Writes what the hook after says. -/
def finish (rule : Rule) (options : Options) (place : Place) (c : Context) : Run :=
  match rule.after with
  | some hook =>
    Run.ask c (hook options c place)
      (fun scalars => writeScalars options.replaces place.site scalars c)
  | none => .done c

/-- Folds the element at a place as its rule says. `fill` folds attributes and inside into a
context, given the attributes to ignore. -/
def applyRule (rule : Rule) (options : Options) (place : Place)
    (fill : List String → Context → Run) (c : Context) : Run :=
  Run.ask c (descentOf rule options c place) (fun descent =>
    (writeScalars options.replaces place.site descent.scalars c).andThen (fun c =>
      match descent.scope with
      | .skip => .done c
      | .current => (fill rule.ignored c).andThen (finish rule options place)
      | .nested key =>
        (nest options.replaces place.site key (fill rule.ignored) c).andThen
          (finish rule options place)))

/-- Folds the element at a place: as its rule says, or into the context at hand without one. -/
def dispatch (table : RuleTable) (options : Options) (place : Place) (name : ExpandedName)
    (fill : List String → Context → Run) (c : Context) : Run :=
  match table.ruleOf? name with
  | none => (Run.report [.folded name.localName] c).andThen (fill [])
  | some rule =>
    (Run.report [.dispatched name.localName] c).andThen (applyRule rule options place fill)

end Fold

/-! ### The walk -/

/-- Folds the elements of a content, whose first node is child number `number` of `parent` and whose
elements are at `depth`. -/
def Xml.Content.fold (table : RuleTable) (options : Options) (parent : Place) (depth : Nat) :
    (number : Nat) → Content → Context → Run
  | _, .empty, c => .done c
  | number, .element start inside after, c =>
    let place := Place.child parent number (.element start inside)
    (Fold.dispatch table options place start.name (fun ignored =>
      Fold.enter options ignored start.attributes depth (fun c =>
        fold table options place (depth + 1) 0 inside c)) c).andThen
      (fun c => fold table options parent depth (number + 1) after c)
  | number, .text _ _ after, c => fold table options parent depth (number + 1) after c
  | number, .comment _ _ after, c => fold table options parent depth (number + 1) after c
  | number, .instruction _ after, c => fold table options parent depth (number + 1) after c

/-- Folds the node at a place, which is at depth one whatever is above it. -/
def Xml.Place.fold (table : RuleTable) (options : Options) (ignored : List String) (place : Place)
    (c : Context) : Run :=
  Fold.enter options ignored place.attributes 1
    (fun c => place.inside.fold table options place 2 0 c) c

end SchemaFold
