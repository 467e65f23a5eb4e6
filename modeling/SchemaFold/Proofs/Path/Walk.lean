import SchemaFold.Proofs.Path.Following
import SchemaFold.Proofs.Path.Scan
import SchemaFold.Proofs.Run
/-!
The paths that a fold follows.

A fold goes from an element to its element children, copies its attributes, and for documentation
looks at its first text. All of this can be said with paths, and none of these paths has a prefix
whose meaning a user can choose.

* `Path.Query.IsPlain`: a path with no prefix but the reserved one;
* `Path.Query.select_congr`: where it leads depends on the meaning of that prefix alone;
* `Path.childElements`, `Path.allAttributes`, `Path.childTexts`: the paths `*`, `@*` and `text()`;
* `Fold.goesAlongPaths`: a fold takes of a place just what these lead to.
-/

namespace SchemaFold

open Xml (Attribute Content Node Place)

namespace Path

/-! ### Paths without prefixes of a user -/

/-- The prefix of a test, if it has one. -/
def NodeTest.pfx? : NodeTest → Option String
  | .any => none
  | .anyIn pfx => some pfx
  | .name pfx _ => pfx
  | .text => none
  | .node => none

/-- No step has a prefix other than the reserved one. -/
def Query.IsPlain (query : Query) : Prop :=
  ∀ step ∈ query.steps, ∀ pfx, step.test.pfx? = some pfx → pfx = Bindings.reservedPrefix

section
variable {bindings other : Bindings}

theorem NodeTest.keepsName_congr {test : NodeTest}
    (h : ∀ pfx, test.pfx? = some pfx → bindings.uri? pfx = other.uri? pfx)
    (expanded : ExpandedName) :
    test.keepsName bindings expanded = test.keepsName other expanded := by
  cases test with
  | any => rfl
  | anyIn pfx => rw [keepsName, keepsName, h pfx rfl]
  | name pfx localName =>
    have huri : uriOf bindings pfx = uriOf other pfx := by
      cases pfx with
      | none => rfl
      | some pfx => exact h pfx rfl
    rw [keepsName, keepsName, huri]
  | text => rfl
  | node => rfl

theorem NodeTest.keepsNode_text (bindings other : Bindings) (place : Place) :
    keepsNode bindings .text place = keepsNode other .text place := by
  cases place with
  | top document => rfl
  | child parent number node => cases node <;> rfl

theorem NodeTest.keepsNode_congr {test : NodeTest}
    (h : ∀ pfx, test.pfx? = some pfx → bindings.uri? pfx = other.uri? pfx) :
    test.keepsNode bindings = test.keepsNode other := by
  funext place
  cases test with
  | any => rfl
  | anyIn pfx => simp only [keepsNode, keepsName_congr h]
  | name pfx localName => simp only [keepsNode, keepsName_congr h]
  | text => exact keepsNode_text bindings other place
  | node => rfl

theorem Step.attributes_congr {test : NodeTest}
    (h : ∀ pfx, test.pfx? = some pfx → bindings.uri? pfx = other.uri? pfx) (place : Place) :
    attributes bindings ⟨.attribute, test⟩ place = attributes other ⟨.attribute, test⟩ place := by
  have hkeeps : ∀ a : Attribute, test.keepsAttribute bindings a = test.keepsAttribute other a :=
    fun a => NodeTest.keepsName_congr h a.name
  rw [attributes, attributes]
  simp only [hkeeps]

theorem Query.follow_congr (steps : List Step)
    (h : ∀ step ∈ steps, ∀ pfx, step.test.pfx? = some pfx → bindings.uri? pfx = other.uri? pfx)
    (place : Place) : follow bindings steps place = follow other steps place := by
  induction steps generalizing place with
  | nil => rfl
  | cons step rest ih =>
    have hstep := h step List.mem_cons_self
    have hrest : follow bindings rest = follow other rest :=
      funext (ih fun later hlater => h later (List.mem_cons_of_mem step hlater))
    have hplaces : step.places bindings place = step.places other place := by
      rw [Step.places, Step.places, NodeTest.keepsNode_congr hstep]
    by_cases hlast : rest = [] ∧ step.axis = .attribute
    · obtain ⟨rfl, haxis⟩ := hlast
      obtain ⟨axis, test⟩ := step
      subst haxis
      exact Step.attributes_congr hstep place
    · rw [follow_cons hlast, follow_cons hlast, hplaces, hrest]

/-- **Where a plain path leads** is settled by the meaning of the reserved prefix. -/
theorem Query.select_congr {query : Query} (hplain : query.IsPlain)
    (h : bindings.uri? Bindings.reservedPrefix = other.uri? Bindings.reservedPrefix)
    (place : Place) : query.select bindings place = query.select other place := by
  refine follow_congr query.steps (fun step hstep pfx hpfx => ?_) _
  rw [hplain step hstep pfx hpfx, h]

end

/-! ### Paths of one step -/

/-- The attribute, of attributes only. -/
def Match.attribute? : Match → Option Attribute
  | .node _ => none
  | .attribute _ _ a => some a

/-- The path `*`. -/
def childElements : Query := ⟨"*", false, [⟨.child, .any⟩]⟩

/-- The path `@*`. -/
def allAttributes : Query := ⟨"@*", false, [⟨.attribute, .any⟩]⟩

/-- The path `text()`. -/
def childTexts : Query := ⟨"text()", false, [⟨.child, .text⟩]⟩

example : Query.parse "*" = .ok childElements := rfl
example : Query.parse "@*" = .ok allAttributes := rfl
example : Query.parse "text()" = .ok childTexts := by decide +kernel
example : Query.parse "/xs:schema" = .ok schemaRoot := by decide +kernel

theorem filterMap_place?_map_node (places : List Place) :
    (places.map Match.node).filterMap Match.place? = places := by
  rw [List.filterMap_map]
  exact List.filterMap_some

/-- The path `*` leads to the element children. -/
theorem select_childElements (bindings : Bindings) (place : Place) :
    (childElements.select bindings place).filterMap Match.place? =
      place.children.filter (fun child => child.start?.isSome) := by
  show (Query.follow bindings [⟨.child, .any⟩] place).filterMap Match.place? = _
  rw [follow_child, filterMap_place?_map_node]
  refine List.filter_congr fun child _ => ?_
  simp only [NodeTest.keepsNode, Place.name?]
  rcases child.start? with _ | start
  · rfl
  · rfl

/-- The path `@*` leads to the attributes. -/
theorem select_allAttributes (bindings : Bindings) (place : Place) :
    (allAttributes.select bindings place).filterMap Match.attribute? = place.attributes := by
  have hall : place.attributes.zipIdx.filter
      (fun a => NodeTest.any.keepsAttribute bindings a.1) = place.attributes.zipIdx :=
    List.filter_eq_self.mpr fun _ _ => rfl
  show (Step.attributes bindings ⟨.attribute, .any⟩ place).filterMap Match.attribute? = _
  rw [Step.attributes, hall, List.filterMap_map]
  exact (congrFun (List.filterMap_eq_map ..) _).trans (List.zipIdx_map_fst ..)

/-- The first of the texts that `text()` leads to is the first text inside. -/
theorem select_childTexts (bindings : Bindings) (place : Place) :
    (childTexts.select bindings place).head?.bind Match.value? = place.inside.firstText? := by
  have hfrom : ∀ (content : Content) (number : Nat),
      (((Place.childrenFrom place number content).filter
        (NodeTest.text.keepsNode bindings)).map Match.node).head?.bind Match.value? =
      content.firstText? := by
    intro content
    induction content with
    | empty => exact fun _ => rfl
    | element start inside after _ ih => exact fun number => ih (number + 1)
    | text value position after _ => exact fun _ => rfl
    | comment value position after ih => exact fun number => ih (number + 1)
    | instruction position after ih => exact fun number => ih (number + 1)
  show (Query.follow bindings [⟨.child, .text⟩] place).head?.bind Match.value? = _
  rw [follow_child]
  exact hfrom place.inside 0

end Path

/-! ### Folds along paths -/

namespace Fold

/-- Something done at every place of a list in turn. -/
def each (visit : Place → Context → Run) : List Place → Context → Run
  | [], c => .done c
  | place :: rest, c => (visit place c).andThen (each visit rest)

/-- What a fold does at an element that is at some depth. -/
def visit (table : RuleTable) (options : Options) (depth : Nat) (place : Place) (c : Context) :
    Run :=
  match place.name? with
  | none => .done c
  | some name =>
    dispatch table options place name (fun ignored =>
      enter options ignored place.attributes depth
        (place.inside.fold table options place (depth + 1) 0)) c

theorem fold_eq_each (table : RuleTable) (options : Options) (parent : Place) (depth : Nat)
    (content : Content) (number : Nat) (c : Context) :
    content.fold table options parent depth number c =
      each (visit table options depth)
        ((Place.childrenFrom parent number content).filter
          (fun child => child.start?.isSome)) c := by
  induction content generalizing number c with
  | empty => rfl
  | element start inside after _ ih => exact Run.andThen_congr fun _ => ih (number + 1) _
  | text value position after ih => exact ih (number + 1) c
  | comment value position after ih => exact ih (number + 1) c
  | instruction position after ih => exact ih (number + 1) c

/-- What a fold takes of a place is what paths lead to under the bindings of its options: its
elements are those of `*`, its attributes those of `@*`, and its first text that of `text()`. -/
structure GoesAlongPaths (table : RuleTable) (options : Options) : Prop where
  elements : ∀ (place : Place) (depth : Nat) (c : Context),
    place.inside.fold table options place depth 0 c =
      each (visit table options depth)
        ((Path.childElements.select options.bindings place).filterMap Path.Match.place?) c
  attributes : ∀ place : Place,
    place.attributes =
      (Path.allAttributes.select options.bindings place).filterMap Path.Match.attribute?
  text : ∀ place : Place,
    place.inside.firstText? =
      (Path.childTexts.select options.bindings place).head?.bind Path.Match.value?

/-- **A fold goes along paths that have no prefixes.** -/
theorem goesAlongPaths (table : RuleTable) (options : Options) : GoesAlongPaths table options where
  elements place depth c := by
    rw [Path.select_childElements]
    exact fold_eq_each table options place depth place.inside 0 c
  attributes place := (Path.select_allAttributes options.bindings place).symm
  text place := (Path.select_childTexts options.bindings place).symm

end Fold

end SchemaFold
