import SchemaFold.Proofs.Plan.Unlocated
import SchemaFold.Proofs.Sample
/-!
What a fold can see of a tree.

A fold sees which elements there are and their attributes. It sees the name of an element only if
the table has a rule for it or if it is a declaration, and it sees a text only if that is the first
one of a documentation. All other texts, comments and instructions, and the names of all other
elements, do not count.

* `RuleTable.sees`: the names that a fold sees;
* `Xml.StartTag.LooksLike`, `Xml.Content.LooksLike`, `Xml.Place.LooksLike`: trees that are alike in
  all that a fold sees;
* `Xml.Content.LooksLike.unlocated_writes`: what is written for them is the same;
* `Xml.Place.fold_agree_of_looksLike`: the statement for folds.
-/

namespace SchemaFold

open Xml (Content Node Place StartTag)

/-! ### Trees that look alike -/

/-- The table has a rule for the name, or it is the name of a declaration. -/
def RuleTable.sees (table : RuleTable) (name : ExpandedName) : Bool :=
  (table.ruleOf? name).isSome || isDeclaration (some name)

/-- Two elements with the same attributes. Their names are the same if one of them is seen, and so
are their first texts if they are documentation. -/
structure Xml.StartTag.LooksLike (choose : ElementKind → Option StandardRule)
    (start : StartTag) (inside : Content) (start' : StartTag) (inside' : Content) : Prop where
  attributes : start.attributes = start'.attributes
  name : (RuleTable.ofStandard choose).sees start.name = true ∨
    (RuleTable.ofStandard choose).sees start'.name = true → start.name = start'.name
  text : standardOf? choose start.name = some .documentation →
    inside.firstText? = inside'.firstText?

/-- Two contents whose element children look alike one by one, and so do all elements inside these.
Other nodes may stand anywhere in the one and in the other. -/
inductive Xml.Content.LooksLike (choose : ElementKind → Option StandardRule) :
    Content → Content → Prop
  | empty : LooksLike choose .empty .empty
  | element {start start' : StartTag} {inside inside' after after' : Content}
      (hstart : start.LooksLike choose inside start' inside')
      (hinside : LooksLike choose inside inside') (hafter : LooksLike choose after after') :
      LooksLike choose (.element start inside after) (.element start' inside' after')
  | left (node : Node) {content content' : Content} (hnode : node.start? = none)
      (h : LooksLike choose content content') : LooksLike choose (.cons node content) content'
  | right (node : Node) {content content' : Content} (hnode : node.start? = none)
      (h : LooksLike choose content content') : LooksLike choose content (.cons node content')

/-- Two nodes that look alike, with all that is inside them: either both are elements or neither. -/
structure Xml.Place.LooksLike (choose : ElementKind → Option StandardRule) (left right : Place) :
    Prop where
  start : Option.Rel (fun start start' => start.LooksLike choose left.inside start' right.inside)
    left.start? right.start?
  inside : left.inside.LooksLike choose right.inside

/-! ### What they have in common -/

namespace Xml.StartTag.LooksLike

variable {choose : ElementKind → Option StandardRule} {start start' : StartTag}
  {inside inside' : Content}

/-- Elements that look alike have the same rule or none, and are both declarations or neither. -/
theorem standardOf?_eq (h : start.LooksLike choose inside start' inside') :
    standardOf? choose start.name = standardOf? choose start'.name ∧
      isDeclaration (some start.name) = isDeclaration (some start'.name) := by
  by_cases hseen : (RuleTable.ofStandard choose).sees start.name = true ∨
      (RuleTable.ofStandard choose).sees start'.name = true
  · rw [h.name hseen]
    exact ⟨rfl, rfl⟩
  · -- neither has a rule, and neither is a declaration
    have hunseen : ∀ name, (RuleTable.ofStandard choose).sees name ≠ true →
        standardOf? choose name = none ∧ isDeclaration (some name) = false := by
      intro name hname
      rw [RuleTable.sees, RuleTable.ruleOf?_ofStandard] at hname
      simpa using hname
    rw [not_or] at hseen
    obtain ⟨hrule, hdeclaration⟩ := hunseen start.name hseen.1
    obtain ⟨hrule', hdeclaration'⟩ := hunseen start'.name hseen.2
    exact ⟨hrule.trans hrule'.symm, hdeclaration.trans hdeclaration'.symm⟩

/-- Elements with a rule that look alike have the same name. -/
theorem name_eq (h : start.LooksLike choose inside start' inside') {standard : StandardRule}
    (hstandard : standardOf? choose start.name = some standard) : start.name = start'.name := by
  refine h.name (Or.inl ?_)
  rw [RuleTable.sees, RuleTable.ruleOf?_ofStandard, hstandard]
  rfl

theorem descentIn?_eq (h : start.LooksLike choose inside start' inside') {standard : StandardRule}
    (hstandard : standardOf? choose start.name = some standard) (declared : Bool) :
    standard.descentIn? declared start inside = standard.descentIn? declared start' inside' := by
  have hname := h.name_eq hstandard
  have hattribute : ∀ name, start.attribute? name = start'.attribute? name := by
    intro name
    rw [attribute?, attribute?, h.attributes]
  have hplace : (Place.child (StandardRule.standIn declared) 0 (.element start inside)).name? =
      (Place.child (StandardRule.standIn declared) 0 (.element start' inside')).name? :=
    congrArg some hname
  refine standard.descent?_congr_of_seen hplace hattribute ?_ fun hdocumentation => ?_
  · rw [isInDeclaration, isInDeclaration, hplace]
    rfl
  · exact h.text (hdocumentation ▸ hstandard)

end Xml.StartTag.LooksLike

/-- **Contents that look alike are written alike**, but for the positions that errors name. -/
theorem Xml.Content.LooksLike.unlocated_writes {choose : ElementKind → Option StandardRule}
    {content content' : Content} (h : content.LooksLike choose content') (options : Options)
    (declared : Bool) (depth : Nat) :
    (content.writes choose options declared depth).unlocated =
      (content'.writes choose options declared depth).unlocated := by
  induction h generalizing declared depth with
  | empty => rfl
  | element hstart _ _ ihInside ihAfter =>
    rw [writes, writes, Plan.unlocated_append, Plan.unlocated_append, ihAfter declared depth]
    congr 1
    refine Plan.isCongruence_eq.unlocated_ofElement hstart.standardOf?_eq.1
      (fun _ hstandard => ⟨hstart.name_eq hstandard, hstart.descentIn?_eq hstandard declared⟩)
      options.missingIdentifier fun ignored => ?_
    rw [Plan.unlocated_enter, Plan.unlocated_enter, hstart.attributes, hstart.standardOf?_eq.2,
      ihInside]
  | left node hnode _ ih =>
    cases node with
    | element start inside => exact absurd hnode (by simp [Node.start?])
    | _ => exact ih declared depth
  | right node hnode _ ih =>
    cases node with
    | element start inside => exact absurd hnode (by simp [Node.start?])
    | _ => exact ih declared depth

/-! ### Folds -/

namespace Xml.Place

variable {choose : ElementKind → Option StandardRule} {left right : Place}

/-- Nodes that look alike have the same attributes, and are both declarations or neither. -/
theorem LooksLike.attributes_eq (h : left.LooksLike choose right) :
    left.attributes = right.attributes ∧ isDeclaration left.name? = isDeclaration right.name? := by
  have hstart := h.start
  rw [attributes, attributes, name?, name?]
  generalize left.start? = found, right.start? = found' at hstart ⊢
  cases hstart with
  | none => exact ⟨rfl, rfl⟩
  | some hlike => exact ⟨hlike.attributes, hlike.standardOf?_eq.2⟩

/-- **Folds of trees that look alike** leave the same context and end in the same way; an error is
the same but for the position that it names. -/
theorem fold_agree_of_looksLike (h : left.LooksLike choose right) (options : Options)
    (ignored : List String) (c : Context) :
    (left.fold (.ofStandard choose) options ignored c).AgreeUpToPosition
      (right.fold (.ofStandard choose) options ignored c) := by
  obtain ⟨hattributes, hdeclaration⟩ := h.attributes_eq
  have hwrites : (left.writes choose options ignored).unlocated =
      (right.writes choose options ignored).unlocated := by
    rw [writes, writes, Plan.unlocated_enter, Plan.unlocated_enter, hattributes, hdeclaration,
      h.inside.unlocated_writes]
  have hleft := left.fold_agree_unlocated choose options ignored c
  have hright := right.fold_agree_unlocated choose options ignored c
  rw [hwrites] at hleft
  exact hleft.trans hright.symm

end Xml.Place

namespace Sample

/-- A type with a sequence and a comment, and the same type with an element of no namespace in the
place of the sequence, and a text. The type without a name inside is an error in both, on another
line: an element of no namespace is no declaration, whatever its name. -/
theorem fold_agree_of_looksLike_of_foreign :
    let rules := options .lastWins .reject
    let left := schema (element "complexType" 2 [("name", "T")]
      (.comment "note" ⟨3, 1⟩ (element "sequence" 4 [("minOccurs", "0")]
        (element "simpleType" 5 [] .empty .empty) .empty)) .empty)
    let right := schema (element "complexType" 7 [("name", "T")]
      (.element ⟨⟨none, "element"⟩, attributes [("minOccurs", "0")], ⟨8, 1⟩⟩
        (.text "x" ⟨8, 30⟩ (element "simpleType" 9 [] .empty .empty)) .empty) .empty)
    left.LooksLike StandardRule.ofKind? right ∧
      (right.fold .standard rules [] .empty).result =
        .error (.missingIdentifier "simpleType" ⟨9, 1⟩) ∧
      (left.fold .standard rules [] .empty).AgreeUpToPosition
        (right.fold .standard rules [] .empty) := by
  intro rules left right
  have hinside : left.inside.LooksLike StandardRule.ofKind? right.inside := by
    refine .element ⟨rfl, fun _ => rfl, fun h => absurd h (by decide)⟩ ?_ .empty
    refine .left (.comment "note" ⟨3, 1⟩) rfl ?_
    refine .element ⟨rfl, fun h => absurd h (by decide), fun h => absurd h (by decide)⟩ ?_ .empty
    refine .right (.text "x" ⟨8, 30⟩) rfl ?_
    exact .element ⟨rfl, fun _ => rfl, fun h => absurd h (by decide)⟩ .empty .empty
  have hlike : left.LooksLike StandardRule.ofKind? right :=
    ⟨.some ⟨rfl, fun _ => rfl, fun h => absurd h (by decide)⟩, hinside⟩
  exact ⟨hlike, rfl, Xml.Place.fold_agree_of_looksLike hlike rules [] .empty⟩

end Sample

end SchemaFold
