import SchemaFold.Proofs.Write
/-!
What every fold keeps, whatever its hooks do.

Hooks decide where things go, but all that ever happens to a context is that texts are written to it
and that new contexts, filled from nothing, are put into it. So what these two writes keep is kept
by every fold, under any table and up to any error.

* `Fold.Invariant`: a property of runs, for elements at each depth, that goes along with both writes
  and with doing one thing after another;
* `Fold.Invariant.dispatch`: one element keeps it, if what fills a context at that element does;
* `Xml.Content.fold_holds`, `Xml.Place.fold_holds`: a fold keeps it.
-/

namespace SchemaFold

open Xml (Attribute Content Place)

/-- A property of the runs that start from a context, while the elements at some depth are folded.
It holds of runs that leave the context as it is, of those that write one text, and of those that
put a context under a key where there is room for one; this context comes from a run one level
deeper, which is not cut short unless the bound on the nesting is kept. Both of two runs may be the
next thing that is done, and what is done inside of elements may be done at their level. -/
structure Fold.Invariant (options : Options) (Holds : (depth : Nat) → Context → Run → Prop) :
    Prop where
  stay (depth : Nat) (c : Context) (log : List Event) (result : Except Error Unit) :
    Holds depth c ⟨c, log, result⟩
  write (depth : Nat) (c : Context) (key text : String) (log : List Event) :
    Holds depth c ⟨c.setScalar key text, log, .ok ()⟩
  put {depth : Nat} {c : Context} {key : String} {run : Run} (log : List Event)
    (hroom : options.replaces = true ∨ c.get? key = none)
    (hdepth : run.result = .ok () → depth ≤ options.limits.depth)
    (hrun : Holds (depth + 1) .empty run) : Holds depth c (run.under c key log)
  andThen {depth : Nat} {c : Context} {first : Run} {next : Context → Run}
    (hfirst : Holds depth c first)
    (hnext : first.result = .ok () → Holds depth first.context (next first.context)) :
    Holds depth c (first.andThen next)
  outward {depth : Nat} {c : Context} {run : Run} (h : Holds (depth + 1) c run) :
    Holds depth c run

namespace Fold.Invariant

variable {α : Type} {options : Options} {Holds : (depth : Nat) → Context → Run → Prop}
  {depth : Nat} {c : Context}

/-! ### Single writes -/

theorem ask (h : Invariant options Holds) (question : Act α) {next : α → Run}
    (hnext : ∀ a, Holds depth c (next a)) : Holds depth c (Run.ask c question next) := by
  rcases hresult : question.result with e | a
  · have hstay : Run.ask c question next = ⟨c, question.log, .error e⟩ := by
      rw [Run.ask, hresult]
    rw [hstay]
    exact h.stay depth c _ _
  · -- the answer has been reported, and then what it asks for is done
    have hreport : Run.ask c question next =
        (Run.report question.log c).andThen (fun _ => next a) := by
      rw [Run.ask, hresult, Run.report_andThen]
    rw [hreport]
    exact h.andThen (h.stay depth c _ _) fun _ => hnext a

theorem copyAttributes (h : Invariant options Holds) (ignored : List String)
    (attributes : List Attribute) {inside : Context → Run}
    (hinside : ∀ d, Holds depth d (inside d)) :
    Holds depth c (inside (c.copyAttributes ignored attributes)) := by
  induction attributes generalizing c with
  | nil => exact hinside c
  | cons a rest ih =>
    rw [Context.copyAttributes]
    split
    · exact ih
    · have hwrite : Holds depth c (Run.done (c.setScalar a.name.localName a.value)) :=
        h.write depth c _ _ _
      have hboth : Holds depth c ((Run.done (c.setScalar a.name.localName a.value)).andThen
          (fun d => inside (d.copyAttributes ignored rest))) :=
        h.andThen hwrite fun _ => ih
      exact hboth

theorem writeScalar (h : Invariant options Holds) (replaces : Bool) (site : Site)
    (entry : String × String) : Holds depth c (Fold.writeScalar replaces site entry c) := by
  by_cases hroom : replaces = true ∨ c.context? entry.1 = none
  · obtain ⟨events, hevents⟩ := writeScalar_eq_report hroom site
    rw [hevents]
    exact h.write depth c _ _ _
  · rw [not_or, Bool.not_eq_true] at hroom
    rw [writeScalar_of_taken hroom.2, hroom.1]
    exact h.stay depth c _ _

theorem writeScalars (h : Invariant options Holds) (replaces : Bool) (site : Site)
    (entries : List (String × String)) :
    Holds depth c (Fold.writeScalars replaces site entries c) := by
  induction entries generalizing c with
  | nil => exact h.stay depth c _ _
  | cons entry rest ih => exact h.andThen (h.writeScalar replaces site entry) fun _ => ih

/-! ### Elements -/

/-- What fills a context at an element keeps the property one level deeper, and is cut short if the
element is too deep. -/
structure Fills (options : Options) (Holds : (depth : Nat) → Context → Run → Prop) (depth : Nat)
    (fill : Context → Run) : Prop where
  holds (c : Context) : Holds (depth + 1) c (fill c)
  le (c : Context) : (fill c).result = .ok () → depth ≤ options.limits.depth

theorem fills_enter (h : Invariant options Holds) (ignored : List String)
    (attributes : List Attribute) {inside : Context → Run}
    (hinside : ∀ d, Holds (depth + 1) d (inside d)) :
    Fills options Holds depth (Fold.enter options ignored attributes depth inside) := by
  refine ⟨fun c => ?_, fun _ hok => Fold.le_of_enter_ok hok⟩
  by_cases hdepth : depth ≤ options.limits.depth
  · rw [Fold.enter_of_le hdepth]
    exact h.copyAttributes ignored attributes hinside
  · rw [Fold.enter, Limits.checkDepth, if_pos (Nat.not_le.mp hdepth)]
    exact h.stay _ c _ _

theorem nest (h : Invariant options Holds) {fill : Context → Run}
    (hfill : Fills options Holds depth fill) (site : Site) (key : String) :
    Holds depth c (Fold.nest options.replaces site key fill c) := by
  by_cases hroom : options.replaces = true ∨ c.get? key = none
  · obtain ⟨events, hevents⟩ := nest_eq_under hroom site fill
    rw [hevents]
    exact h.put events hroom (hfill.le .empty) (hfill.holds .empty)
  · rw [not_or, Bool.not_eq_true] at hroom
    rw [nest_of_taken hroom.2, hroom.1]
    exact h.stay depth c _ _

theorem finish (h : Invariant options Holds) (rule : Rule) (place : Place) :
    Holds depth c (Fold.finish rule options place c) := by
  rw [Fold.finish]
  rcases rule.after with _ | hook
  · exact h.stay depth c _ _
  · exact h.ask (hook options c place) fun scalars =>
      h.writeScalars options.replaces place.site scalars

theorem applyRule (h : Invariant options Holds) (rule : Rule) (place : Place)
    {fill : List String → Context → Run}
    (hfill : ∀ ignored, Fills options Holds depth (fill ignored)) :
    Holds depth c (Fold.applyRule rule options place fill c) := by
  refine h.ask (descentOf rule options c place) fun descent =>
    h.andThen (h.writeScalars _ _ descent.scalars) fun _ => ?_
  -- the texts are written; what comes next is up to the scope
  rcases descent.scope with _ | key | _
  · exact h.andThen (h.outward ((hfill rule.ignored).holds _)) fun _ => h.finish rule place
  · exact h.andThen (h.nest (hfill rule.ignored) place.site key) fun _ => h.finish rule place
  · exact h.stay depth _ _ _

/-- **One element keeps the property**, whatever its rule is. -/
theorem dispatch (h : Invariant options Holds) (table : RuleTable) (place : Place)
    (name : ExpandedName) {fill : List String → Context → Run}
    (hfill : ∀ ignored, Fills options Holds depth (fill ignored)) :
    Holds depth c (Fold.dispatch table options place name fill c) := by
  rw [Fold.dispatch]
  rcases table.ruleOf? name with _ | rule
  · exact h.andThen (h.stay depth c _ _) fun _ => h.outward ((hfill []).holds _)
  · exact h.andThen (h.stay depth c _ _) fun _ => h.applyRule rule place hfill

end Fold.Invariant

/-! ### Folds -/

variable {options : Options} {Holds : (depth : Nat) → Context → Run → Prop}

theorem Xml.Content.fold_holds (h : Fold.Invariant options Holds) (table : RuleTable)
    (content : Content) (parent : Place) (depth number : Nat) (c : Context) :
    Holds depth c (content.fold table options parent depth number c) := by
  induction content generalizing parent depth number c with
  | empty => exact h.stay depth c _ _
  | element start inside after ihInside ihAfter =>
    refine h.andThen (h.dispatch table _ start.name fun ignored => ?_) fun _ => ihAfter _ _ _ _
    exact h.fills_enter ignored start.attributes (ihInside _ (depth + 1) 0)
  | text value position after ih => exact ih parent depth (number + 1) c
  | comment value position after ih => exact ih parent depth (number + 1) c
  | instruction position after ih => exact ih parent depth (number + 1) c

/-- **A fold keeps what its writes keep.** It also says so if the node itself is too deep. -/
theorem Xml.Place.fold_holds (h : Fold.Invariant options Holds) (table : RuleTable)
    (ignored : List String) (place : Place) :
    Fold.Invariant.Fills options Holds 1 (place.fold table options ignored) :=
  h.fills_enter ignored place.attributes (place.inside.fold_holds h table place 2 0)

end SchemaFold
