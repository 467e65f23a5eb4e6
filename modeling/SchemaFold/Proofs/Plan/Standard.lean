import SchemaFold.Proofs.Plan.Basic
import SchemaFold.Rule.Standard
/-!
The plans of the built-in rules.

* `StandardRule.descent?`: what a built-in rule makes of an element, which is known from the element
  and the name of its parent; nothing if the element lacks an identifier;
* `StandardRule.descentOf_rule`: the hooks say just that, and leave the rest to the options;
* `Plan.dispatch_ofStandard`: the plan for an element, put together from these;
* `RuleTable.isBlind_ofStandard`: no table of built-in rules looks at a context.
-/

namespace SchemaFold

open Xml (Place StartTag)

/-! ### The built-in rule for a name -/

theorem ExpandedName.isXsd_iff {name : ExpandedName} {localName : String} :
    name.isXsd localName = true ↔ name = ⟨some xsdNamespace, localName⟩ := by
  obtain ⟨uri, found⟩ := name
  simp [isXsd]

/-- The built-in rule that a table gives to elements with an expanded name. -/
def standardOf? (choose : ElementKind → Option StandardRule) (name : ExpandedName) :
    Option StandardRule :=
  if name.uri = some xsdNamespace then (ElementKind.ofLocalName? name.localName).bind choose
  else none

theorem RuleTable.ruleOf?_ofStandard (choose : ElementKind → Option StandardRule)
    (name : ExpandedName) :
    (ofStandard choose).ruleOf? name = (standardOf? choose name).map StandardRule.rule := by
  rw [ruleOf?, standardOf?]
  split
  · rw [ruleFor?, Option.map_bind]
    rfl
  · rfl

namespace StandardRule

/-! ### Before an element -/

/-- A rule that looks for an identifier. -/
def identifies : StandardRule → Bool
  | .nameThenRef | .refThenName | .typeDefinition => true
  | _ => false

/-- What a built-in rule makes of an element. There is no answer if the rule needs an identifier and
the element has none. -/
def descent? (standard : StandardRule) (place : Place) : Option Descent :=
  match standard with
  | .nameThenRef => (identifier? place ["name", "ref"]).map Descent.nested
  | .refThenName => (identifier? place ["ref", "name"]).map Descent.nested
  | .typeDefinition =>
    if (identifier? place nameAndRef).isNone && isInDeclaration place then some .current
    else (identifier? place ["name", "ref"]).map Descent.nested
  | .extension => some (derivation place propertiesKey)
  | .restriction => some (derivation place facetsKey)
  | .documentation =>
    match place.inside.firstText? with
    | some text => some (Descent.current.withScalar commentKey (Text.trim text))
    | none => some .current
  | .enumeration =>
    match place.attribute? "value" with
    | some value => some (.nested value)
    | none => some .current
  | .facet =>
    match place.attribute? "value" with
    | some value => some (Descent.current.withScalar place.localName value)
    | none => some .current
  | .simpleContent | .complexContent => some .current

/-- What becomes of an element without an identifier. -/
def unnamed (missing : MissingIdentifier) (site : Site) : Act Descent :=
  match missing with
  | .reject => .fail (.missingIdentifier site.element site.location)
  | .skip => ⟨[.unnamedSkipped site.element site.location], .ok .skip⟩

theorem identify_eq (options : Options) (place : Place) (order : List String) :
    identify options place order =
      match (identifier? place order).map Descent.nested with
      | some descent => .done descent
      | none => unnamed options.missingIdentifier place.site := by
  rw [identify]
  rcases identifier? place order with _ | key
  · rfl
  · rfl

/-- **What the hooks before say** is known from the element, but for the policy on those without an
identifier. -/
theorem descentOf_rule (standard : StandardRule) (options : Options) (c : Context)
    (place : Place) :
    Fold.descentOf standard.rule options c place =
      match standard.descent? place with
      | some descent => .done descent
      | none => unnamed options.missingIdentifier place.site := by
  cases standard with
  | nameThenRef => exact identify_eq options place ["name", "ref"]
  | refThenName => exact identify_eq options place ["ref", "name"]
  | typeDefinition =>
    show (if (identifier? place nameAndRef).isNone && isInDeclaration place then Act.done .current
      else identify options place ["name", "ref"]) = _
    rw [descent?]
    split
    · rfl
    · exact identify_eq options place ["name", "ref"]
  | extension => rfl
  | restriction => rfl
  | documentation =>
    show (match place.inside.firstText? with
      | some text => Act.done (Descent.current.withScalar commentKey (Text.trim text))
      | none => .done .current) = _
    rw [descent?]
    rcases place.inside.firstText? with _ | text
    · rfl
    · rfl
  | enumeration =>
    show (match place.attribute? "value" with
      | some value => Act.done (Descent.nested value)
      | none => .done .current) = _
    rw [descent?]
    rcases place.attribute? "value" with _ | value
    · rfl
    · rfl
  | facet =>
    show (match place.attribute? "value" with
      | some value => Act.done (Descent.current.withScalar place.localName value)
      | none => .done .current) = _
    rw [descent?]
    rcases place.attribute? "value" with _ | value
    · rfl
    · rfl
  | simpleContent => rfl
  | complexContent => rfl

/-! ### After an element -/

/-- The texts that a built-in rule writes once its element is done. -/
def closing : StandardRule → List (String × String)
  | .simpleContent => [(contentModelKey, "simple")]
  | .complexContent => [(contentModelKey, "complex")]
  | _ => []

theorem finish_rule (standard : StandardRule) (options : Options) (place : Place) :
    Plan.finish standard.rule options place = Plan.ofScalars place.site standard.closing := by
  cases standard <;> rfl

/-! ### The plan of a rule -/

end StandardRule

namespace Plan

/-- What a descent makes of an element whose attributes and inside have a plan. -/
def descend (site : Site) (descent : Descent) (inside : Plan)
    (closing : List (String × String)) : Plan :=
  ofScalars site descent.scalars ++
    (match descent.scope with
      | .skip => .done
      | .current => inside ++ ofScalars site closing
      | .nested key => .nested site key inside (ofScalars site closing))

/-- What becomes of an element without an identifier. -/
def unnamed (missing : MissingIdentifier) (site : Site) : Plan :=
  match missing with
  | .reject => .fail (.missingIdentifier site.element site.location)
  | .skip => .note (.unnamedSkipped site.element site.location) .done

/-- The plan for an element under a built-in rule. -/
def ofStandard (standard : StandardRule) (missing : MissingIdentifier) (place : Place)
    (fill : List String → Plan) : Plan :=
  match standard.descent? place with
  | some descent => descend place.site descent (fill standard.ignored) standard.closing
  | none => unnamed missing place.site

theorem applyRule_rule (standard : StandardRule) (options : Options) (place : Place)
    (fill : List String → Plan) :
    applyRule standard.rule options place fill =
      ofStandard standard options.missingIdentifier place fill := by
  rw [applyRule, ofStandard, standard.descentOf_rule, standard.finish_rule]
  rcases standard.descent? place with _ | descent
  · rcases options.missingIdentifier with _ | _
    · rfl
    · rfl
  · rfl

theorem dispatch_ofStandard (choose : ElementKind → Option StandardRule) (options : Options)
    (place : Place) (name : ExpandedName) (fill : List String → Plan) :
    dispatch (.ofStandard choose) options place name fill =
      match standardOf? choose name with
      | none => .note (.folded name.localName) (fill [])
      | some standard =>
        .note (.dispatched name.localName)
          (ofStandard standard options.missingIdentifier place fill) := by
  rw [dispatch, RuleTable.ruleOf?_ofStandard]
  rcases standardOf? choose name with _ | standard
  · rfl
  · show note _ (applyRule standard.rule options place fill) = _
    rw [applyRule_rule]

end Plan

/-! ### No look at the context -/

namespace StandardRule

theorem isBlind_rule (standard : StandardRule) : standard.rule.IsBlind where
  before hook hhook options c place := by
    have h := (descentOf_rule standard options c place).trans
      (descentOf_rule standard options .empty place).symm
    have hbefore : standard.rule.before = some hook := hhook
    rwa [Fold.descentOf, Fold.descentOf, hbefore] at h
  after hook hhook options c place := by
    cases standard <;> cases hhook <;> rfl

end StandardRule

theorem RuleTable.isBlind_ofStandard (choose : ElementKind → Option StandardRule) :
    (ofStandard choose).IsBlind := by
  intro kind rule h
  obtain ⟨standard, _, rfl⟩ := Option.map_eq_some_iff.mp h
  exact standard.isBlind_rule

end SchemaFold
