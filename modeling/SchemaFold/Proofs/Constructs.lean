import SchemaFold.Proofs.Plan.Constructs
import SchemaFold.Proofs.Plan.Standard
import SchemaFold.Proofs.Sample
/-!
What becomes of constructs where duplicate keys are rejected.

An element for which a rule asks for a context of its own is a construct. A fold that comes to its
end has put a context in place for each of them, but may have lost it again: an attribute that is
copied into the same context later, under the key of the construct, destroys it, and nothing is
reported.

* `Xml.Place.constructs`: the constructs of a fold, with the keys that lead to them;
* `Xml.Place.constructs_plan`: they are those of its plan;
* `Xml.Place.fold_keeps_constructs_iff`: all of them are there in the end just if none is copied
  over.
-/

namespace SchemaFold

open Xml (Attribute Content Place)

/-! ### The constructs of a fold -/

/-- The constructs that come of an element: `inside` are those inside it, and `fill` folds it into a
context. -/
def Fold.constructs (table : RuleTable) (options : Options) (place : Place) (name : ExpandedName)
    (fill : List String → Context → Run) (inside : List Construct) : List Construct :=
  match table.ruleOf? name with
  | none => inside
  | some rule =>
    match (Fold.descentOf rule options .empty place).result with
    | .error _ => []
    | .ok descent =>
      match descent.scope with
      | .skip => []
      | .current => inside
      | .nested key => Construct.nest key (fill rule.ignored .empty).context inside

/-- The constructs of a content, whose first node is child number `number` of `parent` and whose
elements are at `depth`. -/
def Xml.Content.constructs (table : RuleTable) (options : Options) (parent : Place) (depth : Nat) :
    (number : Nat) → Content → List Construct
  | _, .empty => []
  | number, .element start inside after =>
    let place := Place.child parent number (.element start inside)
    Fold.constructs table options place start.name
      (fun ignored => Fold.enter options ignored start.attributes depth
        (inside.fold table options place (depth + 1) 0))
      (constructs table options place (depth + 1) 0 inside) ++
    constructs table options parent depth (number + 1) after
  | number, .text _ _ after => constructs table options parent depth (number + 1) after
  | number, .comment _ _ after => constructs table options parent depth (number + 1) after
  | number, .instruction _ after => constructs table options parent depth (number + 1) after

/-- The constructs of the fold of a node: the elements below it that go into a context of their
own. -/
def Xml.Place.constructs (table : RuleTable) (options : Options) (place : Place) :
    List Construct :=
  place.inside.constructs table options place 2 0

/-! ### The constructs of its plan -/

namespace Plan

variable {α : Type} {p q : Plan} {c d : Context}

/-- A plan that comes to its end lets the next one have its constructs. -/
theorem Completes.constructs_append (h : p.Completes c d) (q : Plan) :
    (p ++ q).constructs = p.constructs ++ q.constructs := by
  induction h with
  | done c => rfl
  | note event _ ih => exact ih
  | copy _ ih => exact ih
  | scalar site _ _ ih => exact ih
  | nested site _ _ _ _ ih => rw [nested_append, constructs, constructs, ih, List.append_assoc]

theorem constructs_ofScalars (site : Site) (entries : List (String × String)) :
    (ofScalars site entries).constructs = [] := by
  induction entries with
  | nil => rfl
  | cons entry rest ih => exact ih

theorem constructs_ofAttributes (ignored : List String) (attributes : List Attribute) :
    (ofAttributes ignored attributes).constructs = [] := by
  induction attributes with
  | nil => rfl
  | cons a rest ih =>
    rw [ofAttributes]
    split
    · exact ih
    · exact ih

theorem constructs_notes (events : List Event) (next : Plan) :
    (notes events next).constructs = next.constructs := by
  induction events with
  | nil => rfl
  | cons event rest ih => exact ih

theorem Completes.of_notes {events : List Event} (h : (notes events p).Completes c d) :
    p.Completes c d := by
  induction events with
  | nil => exact h
  | cons event rest ih =>
    cases h with
    | note _ hrest => exact ih hrest

/-- A plan that comes to its end has the answer to its question. -/
theorem Completes.of_ask {question : Act α} {next : α → Plan}
    (h : (ask question next).Completes c d) :
    ∃ a, question.result = .ok a ∧ (next a).Completes c d ∧
      (ask question next).constructs = (next a).constructs := by
  rw [ask] at h ⊢
  rw [constructs_notes]
  rcases hresult : question.result with e | a
  · rw [hresult] at h
    cases h.of_notes
  · rw [hresult] at h
    exact ⟨a, rfl, h.of_notes, rfl⟩

theorem Completes.of_enter {options : Options} {ignored : List String}
    {attributes : List Attribute} {depth : Nat} {inside : Plan}
    (h : (enter options ignored attributes depth inside).Completes c d) :
    ∃ e, inside.Completes e d ∧
      (enter options ignored attributes depth inside).constructs = inside.constructs := by
  rw [enter] at h ⊢
  rcases hdepth : options.limits.checkDepth depth with fault | _
  · rw [hdepth] at h
    cases h
  · rw [hdepth] at h
    obtain ⟨e, hattributes, hinside⟩ := h.of_append
    refine ⟨e, hinside, ?_⟩
    show (ofAttributes ignored attributes ++ inside).constructs = _
    rw [hattributes.constructs_append, constructs_ofAttributes, List.nil_append]

/-- What a rule writes after an element is no construct. -/
theorem constructs_finish (rule : Rule) (options : Options) (place : Place) :
    (finish rule options place).constructs = [] := by
  rw [finish]
  rcases rule.after with _ | hook
  · rfl
  · show (ask (hook options .empty place) (ofScalars place.site)).constructs = []
    rw [ask, constructs_notes]
    rcases (hook options .empty place).result with e | scalars
    · rfl
    · exact constructs_ofScalars place.site scalars

variable {table : RuleTable} {options : Options} {place : Place}
  {fill : List String → Plan} {fillRun : List String → Context → Run} {inside : List Construct}

theorem Completes.constructs_dispatch {name : ExpandedName}
    (hrun : ∀ ignored, (fill ignored).exec false .empty = fillRun ignored .empty)
    (hfill : ∀ ignored c d, (fill ignored).Completes c d → (fill ignored).constructs = inside)
    (h : (dispatch table options place name fill).Completes c d) :
    (dispatch table options place name fill).constructs =
      Fold.constructs table options place name fillRun inside := by
  rw [dispatch] at h ⊢
  rw [Fold.constructs]
  rcases hrule : table.ruleOf? name with _ | rule
  · rw [hrule] at h
    cases h with
    | note _ hrest => exact hfill [] _ _ hrest
  · rw [hrule] at h
    cases h with
    | note _ hrest =>
      -- the rule has answered, and has written its texts; what is left is up to the scope
      obtain ⟨descent, hresult, hdescent, hconstructs⟩ := hrest.of_ask
      show (applyRule rule options place fill).constructs = _
      rw [applyRule, hconstructs]
      obtain ⟨e, hscalars, hscope⟩ := hdescent.of_append
      rw [hscalars.constructs_append, constructs_ofScalars, List.nil_append]
      simp only [hresult]
      rcases hcase : descent.scope with _ | key | _
      · rw [hcase] at hscope
        obtain ⟨e', hinside, _⟩ := hscope.of_append
        show (fill rule.ignored ++ finish rule options place).constructs = inside
        rw [hinside.constructs_append, hfill rule.ignored _ _ hinside, constructs_finish,
          List.append_nil]
      · rw [hcase] at hscope
        cases hscope with
        | nested _ _ hinside _ =>
          show Construct.nest key _ (fill rule.ignored).constructs ++
            (finish rule options place).constructs = _
          rw [hfill rule.ignored _ _ hinside, constructs_finish, List.append_nil, hrun]
      · rfl

end Plan

/-- The constructs of a content are those of its plan, if this comes to its end. -/
theorem Xml.Content.constructs_plan {table : RuleTable} (htable : table.IsBlind)
    {options : Options} (hreject : options.duplicateKeys = .reject) (content : Content)
    (parent : Place) (depth number : Nat) {c d : Context}
    (h : (content.plan table options parent depth number).Completes c d) :
    (content.plan table options parent depth number).constructs =
      content.constructs table options parent depth number := by
  have hreplaces : options.replaces = false := by rw [Options.replaces, hreject]; rfl
  induction content generalizing parent depth number c d with
  | empty => rfl
  | element start inside after ihInside ihAfter =>
    rw [plan] at h ⊢
    obtain ⟨e, hown, hafter⟩ := h.of_append
    rw [hown.constructs_append, constructs, ihAfter parent depth (number + 1) hafter]
    congr 1
    refine hown.constructs_dispatch (fun ignored => ?_) fun ignored c d hfill => ?_
    · rw [← hreplaces, Plan.exec_enter]
      congr 1
      funext c
      exact (inside.fold_eq_exec htable options _ (depth + 1) 0 c).symm
    · obtain ⟨_, hinside, hconstructs⟩ := hfill.of_enter
      rw [hconstructs]
      exact ihInside _ (depth + 1) 0 hinside
  | text value position after ih => exact ih parent depth (number + 1) h
  | comment value position after ih => exact ih parent depth (number + 1) h
  | instruction position after ih => exact ih parent depth (number + 1) h

namespace Xml.Place

theorem constructs_plan {table : RuleTable} (htable : table.IsBlind) {options : Options}
    (hreject : options.duplicateKeys = .reject) {ignored : List String} {place : Place}
    {c d : Context} (h : (place.plan table options ignored).Completes c d) :
    (place.plan table options ignored).constructs = place.constructs table options := by
  obtain ⟨_, hinside, hconstructs⟩ := h.of_enter
  rw [plan, hconstructs]
  exact place.inside.constructs_plan htable hreject place 2 0 hinside

/-- **Where duplicate keys are rejected, only copies of attributes destroy constructs.** A fold of
an empty context carries out its plan. If it comes to its end, it has all its constructs in place,
each with what was folded into it, and as many contexts as constructs, just if no attribute is
copied under the key of a construct that is there already, that is, if it never comes to a copy over
a context. A rule's text in the place of a construct, and a construct in the place of anything, is a
duplicate key. -/
theorem fold_keeps_constructs_iff (choose : ElementKind → Option StandardRule) (options : Options)
    (h : options.duplicateKeys = .reject) (ignored : List String) (place : Place) :
    let run := place.fold (.ofStandard choose) options ignored .empty
    let plan := place.plan (.ofStandard choose) options ignored
    let constructs := place.constructs (.ofStandard choose) options
    run = plan.exec false .empty ∧
    (run.result = .ok () →
      ((∀ construct ∈ constructs,
        run.context.at? construct.path = some construct.context) ↔ ¬ plan.Overwrites) ∧
      (run.context.nestedCount = constructs.length ↔ ¬ plan.Overwrites) ∧
      (plan.Overwrites ↔ ∃ key text rest c,
        plan.Reaches .empty (.copy key text rest) c ∧ c.context? key ≠ none)) ∧
    (∀ site key text rest c, plan.Reaches .empty (.scalar site key text rest) c →
      c.context? key ≠ none →
      run.result = .error (.duplicateKey key site.element site.location)) ∧
    (∀ site key inner rest c, plan.Reaches .empty (.nested site key inner rest) c →
      c.get? key ≠ none →
      run.result = .error (.duplicateKey key site.element site.location)) := by
  intro run plan constructs
  have hblind := RuleTable.isBlind_ofStandard choose
  -- under this policy the run is that of the plan without leave to replace
  have hrun : run = plan.exec false .empty := by
    have hreplaces : options.replaces = false := by rw [Options.replaces, h]; rfl
    show place.fold (.ofStandard choose) options ignored .empty = _
    rw [place.fold_eq_exec hblind, hreplaces]
  rw [hrun]
  refine ⟨rfl, fun hok => ?_, fun site key text rest c hreaches htaken => ?_,
    fun site key inner rest c hreaches htaken => ?_⟩
  · have hcompletes := Plan.completes_of_ok hok
    have hconstructs : plan.constructs = constructs := constructs_plan hblind h hcompletes
    rw [← hconstructs]
    refine ⟨hcompletes.kept_iff, hcompletes.nestedCount_eq_iff, ?_⟩
    rw [← Plan.overwritesOn_empty]
    exact hcompletes.overwritesOn_iff
  · exact Plan.error_of_reaches_scalar hreaches htaken
  · exact Plan.error_of_reaches_nested hreaches htaken

end Xml.Place

namespace Sample

/-- A type with an element called like an attribute, and after it a group of elements with such
attributes. -/
def typeWithGroup (groupAttributes : List (String × String)) : Place :=
  schema
    (element "complexType" 2 [("name", "T")]
      (element "sequence" 3 []
        (element "element" 4 [("name", "minOccurs")] .empty
          (element "sequence" 5 groupAttributes
            (element "element" 6 [("name", "a")] .empty .empty)
            .empty))
        .empty)
      .empty)

/-- A group that has no such attribute leaves the element in place. -/
theorem fold_keeps_constructs_of_typeWithGroup :
    let options := options .reject .reject
    let place := typeWithGroup [("maxOccurs", "1")]
    let run := place.fold .standard options [] .empty
    options.duplicateKeys = .reject ∧ run.result = .ok () ∧
      (∀ construct ∈ place.constructs .standard options,
        run.context.at? construct.path = some construct.context) ∧
      run.context.nestedCount = 3 := by
  intro options place run
  have hok : run.result = .ok () := rfl
  have hkept : ¬ (place.plan .standard options []).Overwrites := by decide
  have hall := (place.fold_keeps_constructs_iff StandardRule.ofKind? options rfl []).2.1 hok
  exact ⟨rfl, hok, hall.1.mpr hkept, hall.2.1.mpr hkept⟩

/-- A group that has the attribute takes the place of the element, and nothing is said of it. -/
theorem fold_loses_construct_of_typeWithGroup :
    let options := options .reject .reject
    let place := typeWithGroup [("minOccurs", "0")]
    let run := place.fold .standard options [] .empty
    run.result = .ok () ∧
      (place.constructs .standard options).map Construct.path =
        [["T"], ["T", "minOccurs"], ["T", "a"]] ∧
      run.context.at? ["T", "minOccurs"] = none ∧
      run.context.nestedCount = 2 ∧
      run.log = [.dispatched "complexType", .folded "sequence", .dispatched "element",
        .folded "sequence", .dispatched "element"] := by
  refine ⟨rfl, ?_, ?_, ?_, rfl⟩
  · decide
  · decide
  · decide

end Sample

end SchemaFold
