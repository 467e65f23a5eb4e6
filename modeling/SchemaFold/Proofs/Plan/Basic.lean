import SchemaFold.Proofs.Run
/-!
Plans: what a fold is going to do, fixed before it looks at any context.

The hooks of the built-in rules never look at the context that they are shown. So the writes of a
fold, their order and the errors in between are known from the tree alone: they make up a plan.

* `Plan`: writes to one context, in order, with a plan of its own for every context inside;
* `Plan.exec`: how a plan is carried out on a context;
* `Xml.Content.plan`, `Xml.Place.plan`: the plan of a fold;
* `RuleTable.IsBlind`: the hooks of a table look at no context;
* `Xml.Place.fold_eq_exec`: under such a table a fold carries out its plan.
-/

namespace SchemaFold

open Xml (Attribute Content Place StartTag)

/-- Writes to a context in order. A plan ends at an error; what would come after it is left out. -/
inductive Plan
  | done
  | fail (error : Error)
  | note (event : Event) (rest : Plan)
  | copy (key text : String) (rest : Plan)
  | scalar (site : Site) (key text : String) (rest : Plan)
  | nested (site : Site) (key : String) (inner rest : Plan)
  deriving DecidableEq, Repr

namespace Plan

variable {α : Type}

/-! ### Carrying out a plan -/

/-- Carries out a plan on a context. Texts of rules and nested contexts are checked for duplicates,
copies of attributes are not. -/
def exec (replaces : Bool) : Plan → Context → Run
  | .done, c => .done c
  | .fail e, c => .fail c e
  | .note event rest, c => (Run.report [event] c).andThen (exec replaces rest)
  | .copy key text rest, c => exec replaces rest (c.setScalar key text)
  | .scalar site key text rest, c =>
    (Fold.writeScalar replaces site (key, text) c).andThen (exec replaces rest)
  | .nested site key inner rest, c =>
    (Fold.nest replaces site key (exec replaces inner) c).andThen (exec replaces rest)

/-- One plan after another. -/
protected def append : Plan → Plan → Plan
  | .done, next => next
  | .fail e, _ => .fail e
  | .note event rest, next => .note event (rest.append next)
  | .copy key text rest, next => .copy key text (rest.append next)
  | .scalar site key text rest, next => .scalar site key text (rest.append next)
  | .nested site key inner rest, next => .nested site key inner (rest.append next)

instance : Append Plan := ⟨Plan.append⟩

section
variable (site : Site) (event : Event) (key text : String) (e : Error) (p q inner : Plan)

@[simp] theorem done_append : Plan.done ++ q = q := rfl
@[simp] theorem fail_append : Plan.fail e ++ q = .fail e := rfl
@[simp] theorem note_append : Plan.note event p ++ q = .note event (p ++ q) := rfl
@[simp] theorem copy_append : copy key text p ++ q = .copy key text (p ++ q) := rfl
@[simp] theorem scalar_append :
    scalar site key text p ++ q = .scalar site key text (p ++ q) := rfl
@[simp] theorem nested_append :
    nested site key inner p ++ q = .nested site key inner (p ++ q) := rfl

end

/-- **Plans are carried out one after the other.** -/
theorem exec_append (replaces : Bool) (p q : Plan) (c : Context) :
    (p ++ q).exec replaces c = (p.exec replaces c).andThen (q.exec replaces) := by
  induction p generalizing c with
  | done => rfl
  | fail e => rfl
  | note event rest ih =>
    simp only [note_append, exec]
    rw [Run.andThen_assoc]
    exact Run.andThen_congr fun _ => ih _
  | copy key text rest ih => exact ih _
  | scalar site key text rest ih =>
    simp only [scalar_append, exec]
    rw [Run.andThen_assoc]
    exact Run.andThen_congr fun _ => ih _
  | nested site key inner rest _ ih =>
    simp only [nested_append, exec]
    rw [Run.andThen_assoc]
    exact Run.andThen_congr fun _ => ih _

/-! ### Plans of the parts of a fold -/

/-- Events first. -/
def notes (events : List Event) (next : Plan) : Plan := events.foldr .note next

theorem exec_notes (replaces : Bool) (events : List Event) (next : Plan) (c : Context) :
    (notes events next).exec replaces c =
      ⟨(next.exec replaces c).context, events ++ (next.exec replaces c).log,
        (next.exec replaces c).result⟩ := by
  induction events with
  | nil => rfl
  | cons event events ih =>
    show (Run.report [event] c).andThen ((notes events next).exec replaces) = _
    rw [Run.report_andThen, ih]
    rfl

/-- Goes on with the answer to a question. -/
def ask (question : Act α) (next : α → Plan) : Plan :=
  notes question.log
    (match question.result with
      | .ok a => next a
      | .error e => .fail e)

theorem exec_ask (replaces : Bool) (question : Act α) (next : α → Plan) (c : Context) :
    (ask question next).exec replaces c =
      Run.ask c question (fun a => (next a).exec replaces c) := by
  rw [ask, exec_notes, Run.ask]
  rcases question.result with e | a
  · show (⟨c, question.log ++ [], .error e⟩ : Run) = _
    rw [List.append_nil]
  · rfl

/-- Texts of a rule. -/
def ofScalars (site : Site) : List (String × String) → Plan
  | [] => .done
  | entry :: rest => .scalar site entry.1 entry.2 (ofScalars site rest)

theorem exec_ofScalars (replaces : Bool) (site : Site) (entries : List (String × String))
    (c : Context) :
    (ofScalars site entries).exec replaces c = Fold.writeScalars replaces site entries c := by
  induction entries generalizing c with
  | nil => rfl
  | cons entry rest ih => exact Run.andThen_congr fun _ => ih _

/-- Attributes that are not ignored. -/
def ofAttributes (ignored : List String) : List Attribute → Plan
  | [] => .done
  | a :: rest =>
    if ignored.contains a.name.localName then ofAttributes ignored rest
    else .copy a.name.localName a.value (ofAttributes ignored rest)

theorem exec_ofAttributes (replaces : Bool) (ignored : List String) (attributes : List Attribute)
    (c : Context) :
    (ofAttributes ignored attributes).exec replaces c =
      .done (c.copyAttributes ignored attributes) := by
  induction attributes generalizing c with
  | nil => rfl
  | cons a rest ih =>
    rw [ofAttributes, Context.copyAttributes]
    split
    · exact ih c
    · exact ih _

/-- Entering an element at a depth. -/
def enter (options : Options) (ignored : List String) (attributes : List Attribute) (depth : Nat)
    (inside : Plan) : Plan :=
  match options.limits.checkDepth depth with
  | .error fault => .fail (.limitExceeded fault)
  | .ok () => ofAttributes ignored attributes ++ inside

theorem exec_enter (replaces : Bool) (options : Options) (ignored : List String)
    (attributes : List Attribute) (depth : Nat) (inside : Plan) (c : Context) :
    (enter options ignored attributes depth inside).exec replaces c =
      Fold.enter options ignored attributes depth (inside.exec replaces) c := by
  rw [enter, Fold.enter]
  rcases options.limits.checkDepth depth with fault | _
  · rfl
  · show (ofAttributes ignored attributes ++ inside).exec replaces c = _
    rw [exec_append, exec_ofAttributes, Run.done_andThen]

/-- What the hook after writes. -/
def finish (rule : Rule) (options : Options) (place : Place) : Plan :=
  match rule.after with
  | some hook => ask (hook options .empty place) (ofScalars place.site)
  | none => .done

/-- What a rule makes of an element. `fill` is the plan for its attributes and what is inside, given
the attributes to ignore. -/
def applyRule (rule : Rule) (options : Options) (place : Place) (fill : List String → Plan) :
    Plan :=
  ask (Fold.descentOf rule options .empty place) (fun descent =>
    ofScalars place.site descent.scalars ++
      (match descent.scope with
        | .skip => .done
        | .current => fill rule.ignored ++ finish rule options place
        | .nested key =>
          .nested place.site key (fill rule.ignored) (finish rule options place)))

/-- What a table makes of an element. -/
def dispatch (table : RuleTable) (options : Options) (place : Place) (name : ExpandedName)
    (fill : List String → Plan) : Plan :=
  match table.ruleOf? name with
  | none => .note (.folded name.localName) (fill [])
  | some rule => .note (.dispatched name.localName) (applyRule rule options place fill)

end Plan

/-- The plan for the elements of a content, whose first node is child number `number` of `parent`
and whose elements are at `depth`. -/
def Xml.Content.plan (table : RuleTable) (options : Options) (parent : Place) (depth : Nat) :
    (number : Nat) → Content → Plan
  | _, .empty => .done
  | number, .element start inside after =>
    let place := Place.child parent number (.element start inside)
    Plan.dispatch table options place start.name (fun ignored =>
      Plan.enter options ignored start.attributes depth
        (plan table options place (depth + 1) 0 inside)) ++
      plan table options parent depth (number + 1) after
  | number, .text _ _ after => plan table options parent depth (number + 1) after
  | number, .comment _ _ after => plan table options parent depth (number + 1) after
  | number, .instruction _ after => plan table options parent depth (number + 1) after

/-- The plan for the node at a place. -/
def Xml.Place.plan (table : RuleTable) (options : Options) (ignored : List String)
    (place : Place) : Plan :=
  Plan.enter options ignored place.attributes 1 (place.inside.plan table options place 2 0)

/-! ### Hooks that look at no context -/

/-- The hooks of a rule answer the same whatever context they are shown. -/
structure Rule.IsBlind (rule : Rule) : Prop where
  before : ∀ hook, rule.before = some hook →
    ∀ options c place, hook options c place = hook options .empty place
  after : ∀ hook, rule.after = some hook →
    ∀ options c place, hook options c place = hook options .empty place

/-- The hooks of all rules of a table look at no context. -/
def RuleTable.IsBlind (table : RuleTable) : Prop :=
  ∀ kind rule, table.rule? kind = some rule → rule.IsBlind

/-- The rule for a name is the rule for its kind. -/
theorem RuleTable.exists_rule?_of_ruleOf? {table : RuleTable} {name : ExpandedName} {rule : Rule}
    (h : table.ruleOf? name = some rule) : ∃ kind, table.rule? kind = some rule := by
  rw [ruleOf?] at h
  split at h
  · obtain ⟨kind, _, hkind⟩ := Option.bind_eq_some_iff.mp h
    exact ⟨kind, hkind⟩
  · exact absurd h (by simp)

namespace Plan

variable {rule : Rule} {table : RuleTable}

theorem descentOf_of_isBlind (h : rule.IsBlind) (options : Options) (c : Context)
    (place : Place) :
    Fold.descentOf rule options c place = Fold.descentOf rule options .empty place := by
  rw [Fold.descentOf, Fold.descentOf]
  rcases hbefore : rule.before with _ | hook
  · rfl
  · exact h.before hook hbefore options c place

theorem exec_finish (h : rule.IsBlind) (options : Options) (place : Place) (c : Context) :
    (finish rule options place).exec options.replaces c = Fold.finish rule options place c := by
  rw [finish, Fold.finish]
  rcases hafter : rule.after with _ | hook
  · rfl
  · show (ask (hook options .empty place) (ofScalars place.site)).exec options.replaces c = _
    rw [exec_ask]
    simp only [exec_ofScalars, h.after hook hafter options c place]

theorem exec_applyRule (h : rule.IsBlind) (options : Options) (place : Place)
    {fill : List String → Plan} {fillRun : List String → Context → Run}
    (hfill : ∀ ignored c, (fill ignored).exec options.replaces c = fillRun ignored c)
    (c : Context) :
    (applyRule rule options place fill).exec options.replaces c =
      Fold.applyRule rule options place fillRun c := by
  have hrun : ∀ ignored, (fill ignored).exec options.replaces = fillRun ignored :=
    fun ignored => funext (hfill ignored)
  have hfinish : (finish rule options place).exec options.replaces =
      Fold.finish rule options place := funext (exec_finish h options place)
  rw [applyRule, Fold.applyRule, exec_ask, descentOf_of_isBlind h options c place]
  congr 1
  funext descent
  rw [exec_append, exec_ofScalars]
  refine Run.andThen_congr fun _ => ?_
  rcases descent.scope with _ | key | _
  · show (fill rule.ignored ++ finish rule options place).exec options.replaces _ = _
    rw [exec_append, hrun, hfinish]
  · show (Fold.nest _ _ _ ((fill rule.ignored).exec options.replaces) _).andThen
      ((finish rule options place).exec options.replaces) = _
    rw [hrun, hfinish]
  · rfl

theorem exec_dispatch (h : table.IsBlind) (options : Options) (place : Place)
    (name : ExpandedName) {fill : List String → Plan} {fillRun : List String → Context → Run}
    (hfill : ∀ ignored c, (fill ignored).exec options.replaces c = fillRun ignored c)
    (c : Context) :
    (dispatch table options place name fill).exec options.replaces c =
      Fold.dispatch table options place name fillRun c := by
  rw [dispatch, Fold.dispatch]
  rcases hrule : table.ruleOf? name with _ | rule
  · exact Run.andThen_congr fun _ => hfill [] _
  · refine Run.andThen_congr fun _ => exec_applyRule ?_ options place hfill _
    obtain ⟨kind, hkind⟩ := RuleTable.exists_rule?_of_ruleOf? hrule
    exact h kind rule hkind

end Plan

theorem Xml.Content.fold_eq_exec {table : RuleTable} (h : table.IsBlind) (options : Options)
    (content : Content) (parent : Place) (depth number : Nat) (c : Context) :
    content.fold table options parent depth number c =
      (content.plan table options parent depth number).exec options.replaces c := by
  induction content generalizing parent depth number c with
  | empty => rfl
  | element start inside after ihInside ihAfter =>
    -- the element itself, with its inside one level deeper, then the elements after it
    rw [fold, plan, Plan.exec_append]
    rw [Plan.exec_dispatch h options _ start.name (fun ignored c => ?_) c]
    · exact Run.andThen_congr fun _ => ihAfter parent depth (number + 1) _
    · rw [Plan.exec_enter]
      congr 1
      funext c
      exact (ihInside _ (depth + 1) 0 c).symm
  | text value position after ih => exact ih parent depth (number + 1) c
  | comment value position after ih => exact ih parent depth (number + 1) c
  | instruction position after ih => exact ih parent depth (number + 1) c

/-- **A fold carries out its plan**, if no hook looks at a context. -/
theorem Xml.Place.fold_eq_exec {table : RuleTable} (h : table.IsBlind) (options : Options)
    (ignored : List String) (place : Place) (c : Context) :
    place.fold table options ignored c =
      (place.plan table options ignored).exec options.replaces c := by
  rw [fold, plan, Plan.exec_enter]
  congr 1
  funext c
  exact place.inside.fold_eq_exec h options place 2 0 c

end SchemaFold
