import SchemaFold.Proofs.Path.Printing
import SchemaFold.Proofs.Path.Uniqueness
/-!
Paths that go down to everything.

* `Path.LeadsOnceTo`: a written path leads just to some matches, and to none of them twice;
* `Path.mem_follow_down_child`, `Path.mem_follow_down_attribute`: what a step down and one more step
  lead to;
* `Path.select_down`: `//` in front of a test leads to all of the document that passes it, `.//` to
  all below a place, and `//@` to all such attributes.

The step down leads to places and not to what passes the test, which is reached from its parent. So
nothing is missed if each place but the first is a child of one that is listed, and nothing is found
twice if no two places have a child in common.
-/

namespace SchemaFold

open Xml (Attribute Place)

/-- Every place belongs to a document, which has no attributes. -/
theorem Xml.Place.attributes_origin (place : Place) : place.origin.attributes = [] := by
  induction place with
  | top document => rfl
  | child parent number node ih => exact ih

namespace Path

variable {bindings : Bindings} {step : Step} {test : NodeTest} {text : String} {place : Place}
  {found : Match}

/-! ### Where a step after a step down leads -/

/-- **A step down and a step to children** lead to all below that passes the test. -/
theorem mem_follow_down_child :
    found ∈ Query.follow bindings [⟨.descendantOrSelf, .node⟩, ⟨.child, test⟩] place ↔
      ∃ node, found = .node node ∧ node.IsBelow place ∧ test.keepsNode bindings node = true := by
  rw [Query.follow_descendantOrSelf, List.mem_flatMap]
  constructor
  · rintro ⟨parent, hparent, hfound⟩
    rw [follow_child] at hfound
    obtain ⟨node, hnode, rfl⟩ := List.mem_map.mp hfound
    obtain ⟨hchild, hkeeps⟩ := List.mem_filter.mp hnode
    have hbelow := Place.isBelow_iff_exists_parent.mpr
      ⟨parent, Place.mem_descendantsOrSelf_iff.mp hparent, hchild⟩
    exact ⟨node, rfl, hbelow, hkeeps⟩
  · rintro ⟨node, rfl, hbelow, hkeeps⟩
    obtain ⟨parent, hparent, hchild⟩ := Place.isBelow_iff_exists_parent.mp hbelow
    refine ⟨parent, Place.mem_descendantsOrSelf_iff.mpr hparent, ?_⟩
    rw [follow_child]
    exact List.mem_map_of_mem (List.mem_filter.mpr ⟨hchild, hkeeps⟩)

theorem mem_attributes :
    found ∈ step.attributes bindings place ↔
      ∃ position a, found = .attribute place position a ∧ place.attributes[position]? = some a ∧
        step.test.keepsAttribute bindings a = true := by
  rw [Step.attributes, List.mem_map]
  constructor
  · rintro ⟨⟨a, position⟩, hmem, rfl⟩
    obtain ⟨hzip, hkeeps⟩ := List.mem_filter.mp hmem
    exact ⟨position, a, rfl, List.mem_zipIdx_iff_getElem?.mp hzip, hkeeps⟩
  · rintro ⟨position, a, rfl, hget, hkeeps⟩
    have hzip : (a, position) ∈ place.attributes.zipIdx := List.mem_zipIdx_iff_getElem?.mpr hget
    exact ⟨(a, position), List.mem_filter.mpr ⟨hzip, hkeeps⟩, rfl⟩

/-- **A step down and a step to attributes** lead to all attributes here and below that pass the
test. -/
theorem mem_follow_down_attribute :
    found ∈ Query.follow bindings [⟨.descendantOrSelf, .node⟩, ⟨.attribute, test⟩] place ↔
      ∃ owner position a, found = .attribute owner position a ∧
        (owner = place ∨ owner.IsBelow place) ∧ owner.attributes[position]? = some a ∧
        test.keepsAttribute bindings a = true := by
  rw [Query.follow_descendantOrSelf, List.mem_flatMap]
  constructor
  · rintro ⟨owner, howner, hfound⟩
    obtain ⟨position, a, rfl, hget, hkeeps⟩ := mem_attributes.mp hfound
    exact ⟨owner, position, a, rfl, Place.mem_descendantsOrSelf_iff.mp howner, hget, hkeeps⟩
  · rintro ⟨owner, position, a, rfl, howner, hget, hkeeps⟩
    exact ⟨owner, Place.mem_descendantsOrSelf_iff.mpr howner,
      mem_attributes.mpr ⟨position, a, rfl, hget, hkeeps⟩⟩

/-- A step down and one more step lead to nothing twice. -/
theorem nodup_follow_down (axis : Axis) (haxis : axis = .child ∨ axis = .attribute)
    (test : NodeTest) (bindings : Bindings) (place : Place) :
    ((Query.follow bindings [⟨.descendantOrSelf, .node⟩, ⟨axis, test⟩] place).map
      Match.key).Nodup := by
  refine (Query.follow_distinct_and_ordered ?_ ?_ bindings place).1
  · rcases haxis with rfl | rfl <;> simp
  · rcases haxis with rfl | rfl <;> simp

/-! ### Paths as they are written -/

/-- The text is a path that leads from a place to just these matches, and to none of them twice. -/
def LeadsOnceTo (bindings : Bindings) (place : Place) (text : String) (wanted : Match → Prop) :
    Prop :=
  ∃ found, select bindings place text = .ok found ∧ (found.map Match.key).Nodup ∧
    ∀ one, one ∈ found ↔ wanted one

/-- Two slashes and a step, from the document or from a place. -/
theorem select_down_step {step : Step} (h : step.isProper = true)
    (haxis : step.axis ≠ .descendantOrSelf) (bindings : Bindings) (place : Place) :
    let follow := Query.follow bindings [⟨.descendantOrSelf, .node⟩, step]
    select bindings place ("//" ++ step.written) = .ok (follow place.origin) ∧
      select bindings place (".//" ++ step.written) = .ok (follow place) := by
  intro follow
  have hafter : writtenAfter 0 [⟨.descendantOrSelf, .node⟩, step] =
      ['/', '/'] ++ step.written.toList := by
    rw [writtenAfter, if_pos rfl, writtenAfter, if_neg haxis, writtenAfter]
    exact List.append_nil _
  constructor
  · have hproper : Query.IsProper true [⟨.descendantOrSelf, .node⟩, step] :=
      { proper := by simpa using ⟨rfl, h⟩
        attributesLast := by simp
        relative := fun h => absurd h (by decide) }
    have hwritten : Query.written true [⟨.descendantOrSelf, .node⟩, step] =
        "//" ++ step.written := by
      rw [Query.written, hafter, ← String.toList_inj]
      simp
    have hparse := Query.parse_written hproper
    rw [hwritten] at hparse
    rw [select, hparse]
    rfl
  · have hproper : Query.IsProper false [⟨.self, .node⟩, ⟨.descendantOrSelf, .node⟩, step] :=
      { proper := by simpa using ⟨rfl, rfl, h⟩
        attributesLast := by simp
        relative := fun _ => ⟨_, _, rfl, by decide⟩ }
    have hwritten : Query.written false [⟨.self, .node⟩, ⟨.descendantOrSelf, .node⟩, step] =
        ".//" ++ step.written := by
      rw [Query.written, hafter, ← String.toList_inj]
      simp [Step.written]
    have hparse := Query.parse_written hproper
    rw [hwritten] at hparse
    rw [select, hparse]
    -- the step to where one is comes first and leads nowhere else
    show Except.ok (Query.follow bindings (⟨.self, .node⟩ :: _) place) = _
    rw [Query.follow_cons (by simp)]
    show Except.ok (List.flatMap follow [place]) = _
    rw [List.flatMap_singleton]

/-- **Two slashes leave nothing out.** A test with two slashes in front of it leads, from any place
of a document, to all below the document that passes the test; with `.//` in front of it, to all
below the place that does; and with `//@`, unless it is the test for text, to all attributes in the
document that pass it. No node and no attribute comes twice. -/
theorem select_down (h : NodeTest.parse text = .ok test) (bindings : Bindings) (place : Place) :
    LeadsOnceTo bindings place ("//" ++ text) (fun found => ∃ node, found = .node node ∧
      node.IsBelow place.origin ∧ test.keepsNode bindings node = true) ∧
    LeadsOnceTo bindings place (".//" ++ text) (fun found => ∃ node, found = .node node ∧
      node.IsBelow place ∧ test.keepsNode bindings node = true) ∧
    (test ≠ .text →
      LeadsOnceTo bindings place ("//@" ++ text) (fun found => ∃ owner position a,
        found = .attribute owner position a ∧ owner.IsBelow place.origin ∧
        owner.attributes[position]? = some a ∧ test.keepsAttribute bindings a = true)) := by
  obtain ⟨hproper, rfl⟩ := NodeTest.parse_eq_ok_iff.mp h
  have hstep : Step.isProper ⟨.child, test⟩ = true := hproper
  obtain ⟨hall, hbelow⟩ := select_down_step hstep (by simp) bindings place
  have hnodup := nodup_follow_down .child (Or.inl rfl) test bindings
  refine ⟨⟨_, hall, hnodup _, fun _ => mem_follow_down_child⟩,
    ⟨_, hbelow, hnodup _, fun _ => mem_follow_down_child⟩, fun htext => ?_⟩
  have hfits : Step.isProper ⟨.attribute, test⟩ = true := by
    rw [Step.isProper, hproper, Bool.true_and, bne_iff_ne]
    exact htext
  have hattribute := (select_down_step hfits (by simp) bindings place).1
  have hwritten : "//" ++ Step.written ⟨.attribute, test⟩ = "//@" ++ test.written := by
    rw [← String.toList_inj]
    simp [Step.written]
  rw [hwritten] at hattribute
  refine ⟨_, hattribute, nodup_follow_down .attribute (Or.inr rfl) test bindings _, fun found => ?_⟩
  rw [mem_follow_down_attribute]
  -- the document itself has no attributes
  constructor
  · rintro ⟨owner, position, a, rfl, rfl | hbelow, hget, hkeeps⟩
    · rw [place.attributes_origin] at hget
      exact absurd hget (by simp)
    · exact ⟨owner, position, a, rfl, hbelow, hget, hkeeps⟩
  · rintro ⟨owner, position, a, rfl, hbelow, hget, hkeeps⟩
    exact ⟨owner, position, a, rfl, Or.inr hbelow, hget, hkeeps⟩

end Path

namespace Sample

open SchemaFold.Path in
/-- From a type in a schema two slashes lead to all elements and attributes of the schema, and `.//`
to what is in the type. -/
theorem select_down_of_nested :
    let inside := element "sequence" 3 [] (element "element" 4 [("name", "a")] .empty .empty) .empty
    let root := schema (element "complexType" 2 [("name", "T")] inside .empty)
    let tag : Xml.StartTag :=
      ⟨⟨some xsdNamespace, "complexType"⟩, attributes [("name", "T")], ⟨2, 1⟩⟩
    let type : Place := .child root 0 (.element tag inside)
    type ∈ root.children ∧
      NodeTest.parse "*" = .ok .any ∧ NodeTest.any ≠ .text ∧
      (select .standard type "//*").map (·.map Match.key) =
        .ok [([0], 0), ([0, 0], 0), ([0, 0, 0], 0), ([0, 0, 0, 0], 0)] ∧
      (∃ found, select .standard type "//*" = .ok found ∧ (found.map Match.key).Nodup ∧
        .node type ∈ found) ∧
      (select .standard type ".//*").map (·.map Match.key) =
        .ok [([0, 0, 0], 0), ([0, 0, 0, 0], 0)] ∧
      (∃ found, select .standard type ".//*" = .ok found ∧ (found.map Match.key).Nodup ∧
        ∀ child ∈ type.children, .node child ∈ found) ∧
      (select .standard type "//@*").map (·.map Match.value?) = .ok [some "T", some "a"] ∧
      ∃ found, select .standard type "//@*" = .ok found ∧ (found.map Match.key).Nodup ∧
        .attribute type 0 ⟨⟨none, "name"⟩, "T"⟩ ∈ found := by
  intro inside root tag type
  have htype : type ∈ root.children := List.mem_singleton.mpr rfl
  have hparse : NodeTest.parse "*" = .ok .any := rfl
  have htext : NodeTest.any ≠ .text := by decide
  have hroot : root ∈ root.origin.children := by decide
  have hbelow : type.IsBelow root.origin :=
    Xml.Place.isBelow_iff_exists_parent.mpr
      ⟨root, Or.inr (Xml.Place.isBelow_iff.mpr ⟨root, hroot, Or.inl rfl⟩), htype⟩
  obtain ⟨⟨all, hall, hallOnce, hallMem⟩, ⟨below, hselect, hbelowOnce, hbelowMem⟩, hattributes⟩ :=
    select_down hparse .standard type
  obtain ⟨found, hfound, hfoundOnce, hfoundMem⟩ := hattributes htext
  refine ⟨htype, hparse, htext, by decide, ⟨all, hall, hallOnce, ?_⟩, by decide,
    ⟨below, hselect, hbelowOnce, fun child hchild => ?_⟩, by decide,
    ⟨found, hfound, hfoundOnce, ?_⟩⟩
  · exact (hallMem _).mpr ⟨_, rfl, hbelow, rfl⟩
  · have hchild' := Xml.Place.isBelow_iff.mpr ⟨child, hchild, Or.inl rfl⟩
    obtain rfl : child = _ := List.mem_singleton.mp hchild
    exact (hbelowMem _).mpr ⟨_, rfl, hchild', rfl⟩
  · exact (hfoundMem _).mpr ⟨_, 0, _, rfl, hbelow, rfl, rfl⟩

end Sample

end SchemaFold
