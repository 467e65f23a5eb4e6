import SchemaFold.Proofs.Flattening
/-!
Removing a rule is the same as not knowing the kind.

Without the rule for a kind its elements are folded like those of any other namespace. So they might
as well have a name of another namespace, unless they are elements or attributes: types look for
these by name, whatever the table says.

* `withoutKind`, `RuleTable.remove_ofStandard`: a table of built-in rules without one of them;
* `Xml.StartTag.Renamed`, `Xml.Content.Renamed`, `Xml.Place.Renamed`: trees in which all elements of
  a kind have got names of other namespaces;
* `Xml.Content.Renamed.writes_eq`: the same is written for both;
* `Xml.Place.fold_agree_of_renamed`: the statement for folds.
-/

namespace SchemaFold

open Xml (Content Place StartTag)

/-! ### A rule less -/

/-- The choice of rules without one for a kind. -/
def withoutKind (choose : ElementKind → Option StandardRule) (removed kind : ElementKind) :
    Option StandardRule :=
  if kind = removed then none else choose kind

theorem RuleTable.remove_ofStandard (choose : ElementKind → Option StandardRule)
    (removed : ElementKind) :
    (ofStandard choose).remove removed = ofStandard (withoutKind choose removed) := by
  have hrule : ((ofStandard choose).remove removed).rule? =
      (ofStandard (withoutKind choose removed)).rule? := by
    funext kind
    show (if kind = removed then none else (choose kind).map StandardRule.rule) =
      (withoutKind choose removed kind).map StandardRule.rule
    rw [withoutKind]
    split
    · rfl
    · rfl
  exact congrArg RuleTable.mk hrule

/-- The kind of a local name is the only one with this name. -/
theorem ElementKind.ofLocalName?_eq_some_iff {name : String} {kind : ElementKind} :
    ofLocalName? name = some kind ↔ kind.localName = name := by
  refine ⟨localName_of_ofLocalName?, ?_⟩
  rintro rfl
  cases kind <;> rfl

section
variable {choose : ElementKind → Option StandardRule} {removed : ElementKind} {name : ExpandedName}

theorem standardOf?_withoutKind_of_kind (h : name.isXsd removed.localName = true) :
    standardOf? (withoutKind choose removed) name = none := by
  rw [ExpandedName.isXsd_iff.mp h, standardOf?, if_pos rfl,
    ElementKind.ofLocalName?_eq_some_iff.mpr rfl, Option.bind_some, withoutKind, if_pos rfl]

theorem standardOf?_withoutKind_of_other (h : name.isXsd removed.localName = false) :
    standardOf? (withoutKind choose removed) name = standardOf? choose name := by
  rw [standardOf?, standardOf?]
  by_cases huri : name.uri = some xsdNamespace
  · rw [if_pos huri, if_pos huri]
    refine Option.bind_congr fun kind hkind => ?_
    -- another kind has another local name
    have hne : kind ≠ removed := by
      rintro rfl
      have hlocal := ElementKind.localName_of_ofLocalName? hkind
      simp [ExpandedName.isXsd, huri, hlocal] at h
    rw [withoutKind, if_neg hne]
  · rw [if_neg huri, if_neg huri]

/-- A name of another namespace has no rule. -/
theorem standardOf?_of_foreign (h : name.uri ≠ some xsdNamespace) :
    standardOf? choose name = none := by
  rw [standardOf?, if_neg h]

/-- A name of another namespace is not that of a declaration. -/
theorem isDeclaration_of_foreign (h : name.uri ≠ some xsdNamespace) :
    isDeclaration (some name) = false := by
  simp [isDeclaration, ExpandedName.isXsd, h]

end

/-! ### Trees in which a kind is renamed -/

/-- Start tags at the same position with the same attributes. The first has the name of a kind and
the second one of another namespace, or both have the same name and it is not that of the kind. -/
structure Xml.StartTag.Renamed (kind : ElementKind) (start start' : StartTag) : Prop where
  attributes : start.attributes = start'.attributes
  position : start.position = start'.position
  ofKind : start.name.isXsd kind.localName = true → start'.name.uri ≠ some xsdNamespace
  other : start.name.isXsd kind.localName = false → start.name = start'.name

/-- Contents that differ only in that each element of a kind has some name of another namespace in
the second. -/
inductive Xml.Content.Renamed (kind : ElementKind) : Content → Content → Prop
  | empty : Renamed kind .empty .empty
  | element {start start' : StartTag} {inside inside' after after' : Content}
      (hstart : start.Renamed kind start') (hinside : Renamed kind inside inside')
      (hafter : Renamed kind after after') :
      Renamed kind (.element start inside after) (.element start' inside' after')
  | text (value : String) (position : Text.Position) {after after' : Content}
      (h : Renamed kind after after') :
      Renamed kind (.text value position after) (.text value position after')
  | comment (value : String) (position : Text.Position) {after after' : Content}
      (h : Renamed kind after after') :
      Renamed kind (.comment value position after) (.comment value position after')
  | instruction (position : Text.Position) {after after' : Content}
      (h : Renamed kind after after') :
      Renamed kind (.instruction position after) (.instruction position after')

/-- Nodes that differ only in this way, with all that is inside them: either both are elements or
neither. -/
structure Xml.Place.Renamed (kind : ElementKind) (place other : Place) : Prop where
  start : Option.Rel (StartTag.Renamed kind) place.start? other.start?
  inside : place.inside.Renamed kind other.inside

theorem Xml.Content.Renamed.firstText?_eq {kind : ElementKind} {content content' : Content}
    (h : content.Renamed kind content') : content.firstText? = content'.firstText? := by
  induction h with
  | empty => rfl
  | element _ _ _ _ ih => exact ih
  | text value position _ _ => rfl
  | comment value position _ ih => exact ih
  | instruction position _ ih => exact ih

/-- No kinds but elements and attributes are declarations. -/
theorem ElementKind.isDeclaration_localName {kind : ElementKind} (helement : kind ≠ .element)
    (hattribute : kind ≠ .attribute) :
    isDeclaration (some ⟨some xsdNamespace, kind.localName⟩) = false := by
  revert helement hattribute
  cases kind <;> decide

/-- Both are declarations or neither. -/
theorem Xml.StartTag.Renamed.isDeclaration_eq {kind : ElementKind} {start start' : StartTag}
    (h : start.Renamed kind start') (helement : kind ≠ .element) (hattribute : kind ≠ .attribute) :
    isDeclaration (some start.name) = isDeclaration (some start'.name) := by
  cases hkind : start.name.isXsd kind.localName with
  | true =>
    rw [ExpandedName.isXsd_iff.mp hkind, kind.isDeclaration_localName helement hattribute]
    exact (isDeclaration_of_foreign (h.ofKind hkind)).symm
  | false => rw [h.other hkind]

/-- Elements of other kinds are the same in both. -/
theorem Xml.StartTag.Renamed.eq_of_other {kind : ElementKind} {start start' : StartTag}
    (h : start.Renamed kind start') (hkind : start.name.isXsd kind.localName = false) :
    start = start' := by
  obtain ⟨name, attributes, position⟩ := start
  obtain ⟨name', attributes', position'⟩ := start'
  obtain rfl : attributes = attributes' := h.attributes
  obtain rfl : position = position' := h.position
  obtain rfl : name = name' := h.other hkind
  rfl

/-! ### What is written for them -/

/-- Of the choice of rules only the one for the element counts. -/
theorem Plan.ofElement_congr {choose choose' : ElementKind → Option StandardRule} {start : StartTag}
    (h : standardOf? choose start.name = standardOf? choose' start.name)
    (missing : MissingIdentifier) (declared : Bool) (inside : Content)
    (fill : List String → Plan) :
    ofElement choose missing declared start inside fill =
      ofElement choose' missing declared start inside fill := by
  rw [ofElement, ofElement, h]

/-- **The same is written** without the rule for a kind, and with it for the renamed content. -/
theorem Xml.Content.Renamed.writes_eq {kind : ElementKind} (helement : kind ≠ .element)
    (hattribute : kind ≠ .attribute) (choose : ElementKind → Option StandardRule)
    (options : Options) {content content' : Content} (h : content.Renamed kind content')
    (declared : Bool) (depth : Nat) :
    content.writes (withoutKind choose kind) options declared depth =
      content'.writes choose options declared depth := by
  induction h generalizing declared depth with
  | empty => rfl
  | @element start start' inside inside' after after' hstart hinside _ ihInside ihAfter =>
    rw [writes, writes, ihAfter declared depth, ihInside, hstart.attributes,
      hstart.isDeclaration_eq helement hattribute]
    congr 1
    cases hkind : start.name.isXsd kind.localName with
    | true =>
      -- neither of the two has a rule
      rw [Plan.ofElement_of_ruleless (standardOf?_withoutKind_of_kind hkind),
        Plan.ofElement_of_ruleless (standardOf?_of_foreign (hstart.ofKind hkind))]
    | false =>
      -- the start tag has the same rule in both tables
      obtain rfl := hstart.eq_of_other hkind
      rw [Plan.ofElement_congr (standardOf?_withoutKind_of_other hkind)]
      refine Plan.isCongruence_eq.ofElement (fun standard _ => ?_) _ fun _ => rfl
      exact standard.descentIn?_congr declared start hinside.firstText?_eq
  | text value position _ ih => exact ih declared depth
  | comment value position _ ih => exact ih declared depth
  | instruction position _ ih => exact ih declared depth

/-! ### Folds -/

namespace Xml.Place

variable {kind : ElementKind} {place other : Place}

/-- Renamed nodes have the same attributes, and are both declarations or neither. -/
theorem Renamed.attributes_eq (h : place.Renamed kind other) (helement : kind ≠ .element)
    (hattribute : kind ≠ .attribute) :
    place.attributes = other.attributes ∧
      isDeclaration place.name? = isDeclaration other.name? := by
  have hstart := h.start
  rw [attributes, attributes, name?, name?]
  generalize place.start? = found, other.start? = found' at hstart ⊢
  cases hstart with
  | none => exact ⟨rfl, rfl⟩
  | some hrenamed =>
    exact ⟨hrenamed.attributes, hrenamed.isDeclaration_eq helement hattribute⟩

/-- **Removing a rule is the same as not knowing the kind.** Let a table be made of built-in rules,
and let all elements of some kind, which are neither elements nor attributes, have names of other
namespaces in a second tree that is otherwise the same. Without the rule for that kind a fold of the
first tree ends like a fold of the second with it, in the same error for the same element at the
same position if it is one, and leaves the same context with its keys in the same order. -/
theorem fold_agree_of_renamed (helement : kind ≠ .element) (hattribute : kind ≠ .attribute)
    (choose : ElementKind → Option StandardRule) (options : Options) (ignored : List String)
    (h : place.Renamed kind other) (c : Context) :
    (place.fold ((RuleTable.ofStandard choose).remove kind) options ignored c).Agree
      (other.fold (.ofStandard choose) options ignored c) := by
  obtain ⟨hattributes, hdeclaration⟩ := h.attributes_eq helement hattribute
  have hwrites : place.writes (withoutKind choose kind) options ignored =
      other.writes choose options ignored := by
    rw [writes, writes, hattributes, hdeclaration,
      h.inside.writes_eq helement hattribute choose options]
  have hplace := place.fold_agree_writes (withoutKind choose kind) options ignored c
  have hother := other.fold_agree_writes choose options ignored c
  rw [hwrites] at hplace
  rw [RuleTable.remove_ofStandard]
  exact hplace.trans hother.symm

end Xml.Place

namespace Sample

/-- The built-in rules, with that for types also for sequences. -/
def sequencesAsTypes (kind : ElementKind) : Option StandardRule :=
  if kind = .sequence then some .typeDefinition else StandardRule.ofKind? kind

/-- An element with a type in it, which has the name `typeName`. In the type there are a sequence
with a name and a type without one. -/
def typed (typeName : ExpandedName) : Place :=
  schema (element "element" 2 [("name", "X")]
    (.element ⟨typeName, attributes [("name", "T"), ("id", "t")], ⟨3, 1⟩⟩
      (element "sequence" 4 [("name", "S")] .empty (element "simpleType" 5 [] .empty .empty))
      .empty)
    .empty)

/-- Without the rule for complex types the name of one is copied, and the rule that is left for
sequences and simple types still asks for a name. An element of another namespace is no declaration
for the last type either. -/
theorem fold_agree_of_renamed_of_typed :
    let rules := options .reject .reject
    let table := RuleTable.ofStandard sequencesAsTypes
    let run := (typed ⟨some xsdNamespace, "complexType"⟩).fold (table.remove .complexType) rules []
      .empty
    (typed ⟨some xsdNamespace, "complexType"⟩).Renamed .complexType
        (typed ⟨some "urn:x", "element"⟩) ∧
      run.result = .error (.missingIdentifier "simpleType" ⟨5, 1⟩) ∧
      run.context = .nested "X"
        (.scalar "name" "T" (.scalar "id" "t" (.nested "S" .empty .empty))) .empty ∧
      run.Agree ((typed ⟨some "urn:x", "element"⟩).fold table rules [] .empty) := by
  intro rules table run
  have hname : ∀ name : ExpandedName, name.isXsd "complexType" = false →
      ∀ attributes position, StartTag.Renamed .complexType ⟨name, attributes, position⟩
        ⟨name, attributes, position⟩ :=
    fun name hname _ _ => ⟨rfl, rfl, fun h => absurd h (by simp [ElementKind.localName, hname]),
      fun _ => rfl⟩
  have htype : StartTag.Renamed .complexType
      ⟨⟨some xsdNamespace, "complexType"⟩, attributes [("name", "T"), ("id", "t")], ⟨3, 1⟩⟩
      ⟨⟨some "urn:x", "element"⟩, attributes [("name", "T"), ("id", "t")], ⟨3, 1⟩⟩ :=
    ⟨rfl, rfl, fun _ => by decide, fun h => absurd h (by decide)⟩
  have hinside : (typed ⟨some xsdNamespace, "complexType"⟩).inside.Renamed .complexType
      (typed ⟨some "urn:x", "element"⟩).inside := by
    refine .element (hname _ rfl _ _) (.element htype ?_ .empty) .empty
    exact .element (hname _ rfl _ _) .empty (.element (hname _ rfl _ _) .empty .empty)
  have hrenamed : (typed ⟨some xsdNamespace, "complexType"⟩).Renamed .complexType
      (typed ⟨some "urn:x", "element"⟩) := ⟨.some (hname _ rfl _ _), hinside⟩
  exact ⟨hrenamed, rfl, rfl, Xml.Place.fold_agree_of_renamed (by decide) (by decide)
    sequencesAsTypes rules [] hrenamed .empty⟩

end Sample

end SchemaFold
