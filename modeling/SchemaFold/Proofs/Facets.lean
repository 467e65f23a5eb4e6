import SchemaFold.Proofs.Plan.Entries
import SchemaFold.Proofs.Sample
/-!
Facets and enumerations of a restriction.

A facet writes its value as a text under its own name, an enumeration opens a context under its
value. So they may be in each other's way, though whether they are does not depend on which comes
first.

* `Xml.StartTag.facet?`, `Xml.StartTag.enumerated?`: what facets and enumerations say;
* `Xml.Content.HoldsFacets`: contents with facets and enumerations only;
* `Plan.writes_of_holdsFacets`: an entry is written for each of them that has a value;
* `Xml.Place.fold_facets`: what becomes of such a restriction.
-/

namespace SchemaFold

open Xml (Attribute Content Place StartTag)

namespace Xml.StartTag

/-- The names of the elements for facets other than enumerations. -/
def facetNames : List String :=
  ["length", "minLength", "maxLength", "pattern", "whiteSpace", "minInclusive", "maxInclusive",
    "minExclusive", "maxExclusive", "totalDigits", "fractionDigits"]

/-- An element for a facet other than an enumeration. -/
def isFacet (start : StartTag) : Bool := facetNames.any start.name.isXsd

/-- The name of a facet and its value, if it has one. -/
def facet? (start : StartTag) : Option (String × String) :=
  if start.isFacet then (start.attribute? "value").map (fun value => (start.name.localName, value))
  else none

/-- The value of an enumeration, if it has one. -/
def enumerated? (start : StartTag) : Option String :=
  if start.name.isXsd "enumeration" then start.attribute? "value" else none

/-- The key for a facet or an enumeration with a value. -/
def valueKey? (start : StartTag) : Option String :=
  start.enumerated?.or (start.facet?.map Prod.fst)

/-- The start tag without its position. -/
def unlocated (start : StartTag) : StartTag := { start with position := .start }

end Xml.StartTag

namespace Xml.Content

/-- The facets of a content that have a value, with this. -/
def facets (content : Content) : List (String × String) :=
  content.elements.filterMap (·.1.facet?)

/-- The values of the enumerations of a content. -/
def enumerations (content : Content) : List String :=
  content.elements.filterMap (·.1.enumerated?)

/-- The children of a content are facets and enumerations, with at most a value and without children
of their own. -/
structure HoldsFacets (content : Content) : Prop where
  kinds : ∀ child ∈ content.elements,
    child.1.isFacet = true ∨ child.1.name.isXsd "enumeration" = true
  attributes : ∀ child ∈ content.elements, ∀ a ∈ child.1.attributes, a.name.localName = "value"
  insides : ∀ child ∈ content.elements, child.2.elements = []

variable {content other : Content}

/-- Children in another order say the same in another order. -/
theorem perm_facets
    (h : (other.elements.map (·.1.unlocated)).Perm (content.elements.map (·.1.unlocated))) :
    other.facets.Perm content.facets := by
  have hsame := h.filterMap StartTag.facet?
  rwa [List.filterMap_map, List.filterMap_map] at hsame

theorem perm_enumerations
    (h : (other.elements.map (·.1.unlocated)).Perm (content.elements.map (·.1.unlocated))) :
    other.enumerations.Perm content.enumerations := by
  have hsame := h.filterMap StartTag.enumerated?
  rwa [List.filterMap_map, List.filterMap_map] at hsame

end Xml.Content

/-! ### Their writes -/

namespace Plan

variable {options : Options} {child : StartTag × Content}

/-- What is written for a facet or an enumeration, if it has a value. -/
def Entry.ofValue? (child : StartTag × Content) : Option Entry :=
  (child.1.enumerated?.map (fun value => .construct child.1.site value .done)).or
    (child.1.facet?.map (fun facet => .text child.1.site facet.1 facet.2))

/-- What is written for facets and enumerations that have a value. -/
def values (content : Content) : List Entry := content.elements.filterMap Entry.ofValue?

/-- Where all attributes are ignored, only the inside is written. -/
theorem enter_of_ignored {ignored : List String} {attributes : List Attribute} {depth : Nat}
    (hdepth : depth ≤ options.limits.depth)
    (hignored : ∀ a ∈ attributes, a.name.localName ∈ ignored) (inside : Plan) :
    enter options ignored attributes depth inside = inside := by
  have hnone : ofAttributes ignored attributes = .done := by
    induction attributes with
    | nil => rfl
    | cons a rest ih =>
      obtain ⟨hfirst, hrest⟩ := List.forall_mem_cons.mp hignored
      rw [ofAttributes, if_pos (by simpa using hfirst), ih hrest]
  rw [enter, Limits.checkDepth, if_neg (Nat.not_lt.mpr hdepth)]
  show ofAttributes ignored attributes ++ inside = inside
  rw [hnone, done_append]

/-- All facets have the same rule. -/
theorem standardOf?_of_isFacet {start : StartTag} (h : start.isFacet = true) :
    standardOf? StandardRule.ofKind? start.name = some .facet := by
  have hrules : ∀ name ∈ StartTag.facetNames,
      standardOf? StandardRule.ofKind? ⟨some xsdNamespace, name⟩ = some .facet := by decide
  obtain ⟨name, hname, hxsd⟩ := List.any_eq_true.mp h
  rw [ExpandedName.isXsd_iff.mp hxsd]
  exact hrules name hname

/-- No enumeration is another facet. -/
theorem isFacet_of_enumeration {start : StartTag} (h : start.name.isXsd "enumeration" = true) :
    start.isFacet = false := by
  rw [StartTag.isFacet, ExpandedName.isXsd_iff.mp h]
  decide

section
variable (declared : Bool) (start : StartTag) (inside : Content)

theorem attribute?_standIn (name : String) :
    (Place.child (StandardRule.standIn declared) 0 (.element start inside)).attribute? name =
      start.attribute? name := rfl

theorem descentIn?_facet : StandardRule.facet.descentIn? declared start inside =
    some ((start.attribute? "value").elim .current
      (Descent.current.withScalar start.name.localName)) := by
  rw [StandardRule.descentIn?, StandardRule.descent?, attribute?_standIn]
  cases start.attribute? "value" <;> rfl

theorem descentIn?_enumeration : StandardRule.enumeration.descentIn? declared start inside =
    some ((start.attribute? "value").elim .current Descent.nested) := by
  rw [StandardRule.descentIn?, StandardRule.descent?, attribute?_standIn]
  cases start.attribute? "value" <;> rfl

end

/-- A facet or an enumeration with a value is one entry, and without a value it is none. -/
theorem forElement_of_value {depth : Nat} (hdepth : depth ≤ options.limits.depth)
    (hkind : child.1.isFacet = true ∨ child.1.name.isXsd "enumeration" = true)
    (hattributes : ∀ a ∈ child.1.attributes, a.name.localName = "value")
    (hinside : child.2.elements = []) (declared : Bool) :
    forElement StandardRule.ofKind? options declared depth child =
      ((Entry.ofValue? child).map Entry.plan).getD .done := by
  -- the value is not copied, and there are no elements inside
  have hfill : enter options ["value"] child.1.attributes depth
      (child.2.writes StandardRule.ofKind? options (isDeclaration (some child.1.name))
        (depth + 1)) = .done := by
    rw [enter_of_ignored hdepth (fun a ha => List.mem_singleton.mpr (hattributes a ha)),
      Content.writes_eq_inOrder, hinside]
    rfl
  rcases hkind with hfacet | henumeration
  · have hnot : child.1.name.isXsd "enumeration" = false := by
      refine Bool.eq_false_iff.mpr fun h => ?_
      exact absurd (hfacet.symm.trans (isFacet_of_enumeration h)) (by decide)
    rw [forElement, ofElement_of_descent (standardOf?_of_isFacet hfacet)
      (descentIn?_facet declared child.1 child.2), Entry.ofValue?, StartTag.enumerated?,
      StartTag.facet?, if_neg (by simp [hnot]), if_pos hfacet]
    show descend _ _ (enter options ["value"] _ _ _) _ = _
    rw [hfill]
    cases child.1.attribute? "value" <;> rfl
  · have hstandard : standardOf? StandardRule.ofKind? child.1.name = some .enumeration := by
      rw [ExpandedName.isXsd_iff.mp henumeration]
      decide
    rw [forElement, ofElement_of_descent hstandard
      (descentIn?_enumeration declared child.1 child.2), Entry.ofValue?, StartTag.enumerated?,
      StartTag.facet?, if_pos henumeration, isFacet_of_enumeration henumeration]
    show descend _ _ (enter options ["value"] _ _ _) _ = _
    rw [hfill]
    cases child.1.attribute? "value" <;> rfl

/-- **Facets and enumerations are written as the entries of those that have a value.** -/
theorem writes_of_holdsFacets {depth : Nat} {content : Content} (h : content.HoldsFacets)
    (hdepth : depth ≤ options.limits.depth) (declared : Bool) :
    content.writes StandardRule.ofKind? options declared depth = ofEntries (values content) := by
  obtain ⟨hkinds, hattributes, hinsides⟩ := h
  rw [Content.writes_eq_inOrder, values]
  generalize content.elements = children at hkinds hattributes hinsides ⊢
  induction children with
  | nil => rfl
  | cons child rest ih =>
    obtain ⟨hkind, hkinds⟩ := List.forall_mem_cons.mp hkinds
    obtain ⟨hattribute, hattributes⟩ := List.forall_mem_cons.mp hattributes
    obtain ⟨hinside, hinsides⟩ := List.forall_mem_cons.mp hinsides
    show forElement _ _ _ _ child ++ inOrder _ = _
    rw [ih hkinds hattributes hinsides, forElement_of_value hdepth hkind hattribute hinside,
      List.filterMap_cons]
    cases Entry.ofValue? child <;> rfl

/-! ### What the entries are -/

theorem facet?_of_enumerated? {start : StartTag} {value : String}
    (h : start.enumerated? = some value) : start.facet? = none := by
  rw [StartTag.enumerated?] at h
  split at h
  · rw [StartTag.facet?, isFacet_of_enumeration ‹_›]
    rfl
  · exact absurd h (by simp)

variable {content : Content} {replaces : Bool}

theorem valueKey?_eq (child : StartTag × Content) :
    child.1.valueKey? = (Entry.ofValue? child).map Entry.key := by
  rw [Entry.ofValue?, StartTag.valueKey?]
  cases child.1.enumerated? <;> cases child.1.facet? <;> rfl

theorem keys_values :
    (values content).map Entry.key = content.elements.filterMap (·.1.valueKey?) := by
  rw [values, List.map_filterMap]
  exact congrArg (content.elements.filterMap ·) (funext fun child => (valueKey?_eq child).symm)

/-- An entry is written for its element, with nothing inside. -/
theorem ofValue?_eq_some {entry : Entry} (h : Entry.ofValue? child = some entry) :
    (∃ value, entry = .construct child.1.site value .done) ∨
      ∃ name text, entry = .text child.1.site name text := by
  simp only [Entry.ofValue?, Option.or_eq_some_iff, Option.map_eq_some_iff] at h
  obtain ⟨value, -, rfl⟩ | ⟨-, facet, -, rfl⟩ := h
  · exact Or.inl ⟨value, rfl⟩
  · exact Or.inr ⟨facet.1, facet.2, rfl⟩

theorem site_of_ofValue? {entry : Entry} (h : Entry.ofValue? child = some entry) :
    entry.site = child.1.site := by
  obtain ⟨value, rfl⟩ | ⟨name, text, rfl⟩ := ofValue?_eq_some h <;> rfl

theorem constructKeys_values :
    (values content).filterMap Entry.constructKey? = content.enumerations := by
  rw [values, Content.enumerations, List.filterMap_filterMap]
  refine congrArg (content.elements.filterMap ·) (funext fun child => ?_)
  rw [Entry.ofValue?]
  cases child.1.enumerated? <;> cases child.1.facet? <;> rfl

theorem textKeys_ofValue? (children : List (StartTag × Content)) :
    (children.filterMap Entry.ofValue?).filterMap Entry.textKey? =
      (children.filterMap (·.1.facet?)).map Prod.fst := by
  rw [List.filterMap_filterMap, List.map_filterMap]
  refine congrArg (children.filterMap ·) (funext fun child => ?_)
  rw [Entry.ofValue?]
  rcases hvalue : child.1.enumerated? with _ | value
  · cases child.1.facet? <;> rfl
  · rw [facet?_of_enumerated? hvalue]
    rfl

theorem fills_values (replaces : Bool) (content : Content) :
    ∀ entry ∈ values content, entry.Fills replaces := by
  intro entry hentry
  obtain ⟨child, -, hchild⟩ := List.mem_filterMap.mp hentry
  obtain ⟨value, rfl⟩ | ⟨name, text, rfl⟩ := ofValue?_eq_some hchild
  · rfl
  · trivial

/-- **Facets and enumerations have room** just if no two enumerations have the same value and none
has the name of a facet with a value. -/
theorem haveRoom_values :
    HaveRoom .empty (values content) ↔ content.enumerations.Nodup ∧
      ∀ value ∈ content.enumerations, value ∉ content.facets.map Prod.fst := by
  rw [haveRoom_empty, pairwise_compatible_iff, constructKeys_values, values, textKeys_ofValue?,
    Content.facets]

/-- There is an empty context for each enumeration. -/
theorem get?_enumeration {value : String} (hroom : HaveRoom .empty (values content))
    (h : value ∈ content.enumerations) :
    (Context.empty.putAll ((values content).map (Entry.written replaces))).get? value =
      some (.context .empty) := by
  obtain ⟨child, hchild, hvalue⟩ := List.mem_filterMap.mp h
  have hentry : Entry.construct child.1.site value .done ∈ values content := by
    refine List.mem_filterMap.mpr ⟨child, hchild, ?_⟩
    rw [Entry.ofValue?, hvalue]
    rfl
  exact get?_of_construct hroom hentry

/-- There is the last text for each facet. -/
theorem get?_facet {name text : String} {earlier later : List (String × String)}
    (hroom : HaveRoom .empty (values content))
    (h : content.facets = earlier ++ (name, text) :: later) (hlast : name ∉ later.map Prod.fst) :
    (Context.empty.putAll ((values content).map (Entry.written replaces))).get? name =
      some (.scalar text) := by
  -- the facet comes from a child, with the other facets of the list before and after it
  obtain ⟨front, rest, helements, -, hrest⟩ := List.filterMap_eq_append_iff.mp h
  obtain ⟨between, child, after, rfl, -, hchild, rfl⟩ := List.filterMap_eq_cons_iff.mp hrest
  have hentry : Entry.ofValue? child = some (.text child.1.site name text) := by
    rw [Entry.ofValue?, hchild]
    rcases hvalue : child.1.enumerated? with _ | value
    · rfl
    · exact absurd (hchild.symm.trans (facet?_of_enumerated? hvalue)) (by simp)
  have hsplit : values content = (front ++ between).filterMap Entry.ofValue? ++
      .text child.1.site name text :: after.filterMap Entry.ofValue? := by
    rw [values, helements, ← List.append_assoc, List.filterMap_append,
      List.filterMap_cons_some hentry]
  rw [← textKeys_ofValue?] at hlast
  rw [hsplit] at hroom ⊢
  exact get?_of_last_text hroom hlast

end Plan

/-! ### Folds -/

namespace Xml.Place

variable {options : Options} {place : Place}

/-- A fold writes the values of facets and enumerations, and nothing else. -/
theorem fold_agree_values (hinside : place.inside.HoldsFacets)
    (hbase : ∀ a ∈ place.attributes, a.name.localName = "base")
    (hdepth : 2 ≤ options.limits.depth) :
    (place.fold .standard options ["base"] .empty).Agree
      ((Plan.ofEntries (Plan.values place.inside)).exec options.replaces .empty) := by
  have hagree := place.fold_agree_writes StandardRule.ofKind? options ["base"] .empty
  have hone : 1 ≤ options.limits.depth := Nat.le_of_succ_le hdepth
  rwa [writes, Plan.enter_of_ignored hone fun a ha => List.mem_singleton.mpr (hbase a ha),
    Plan.writes_of_holdsFacets hinside hdepth] at hagree

/-- **Facets and enumerations of a restriction.** A restriction has no attributes but the base,
which is not copied, and its children are facets and enumerations with at most a value. Under the
built-in rules, from an empty context and where duplicate keys are rejected, it comes to its end
just if no two enumerations have the same value and none has the name of a facet with a value. So it
does not matter in which order the children come. If it does not come to its end, one of them is a
duplicate.

What is left are the facets with a value and the enumerations, in the order in which their keys
first come up: under the name of a facet the last of its values, and under the value of an
enumeration a context with nothing in it. -/
theorem fold_facets (options : Options) (hreject : options.duplicateKeys = .reject)
    (hdepth : 2 ≤ options.limits.depth) (parent : Place) (number : Nat) (start : StartTag)
    (hbase : ∀ a ∈ start.attributes, a.name.localName = "base") (inside : Content)
    (hinside : inside.HoldsFacets) :
    let foldOf (inside : Content) :=
      (Place.child parent number (.element start inside)).fold .standard options ["base"] .empty
    let run := foldOf inside
    (run.result = .ok () ↔ inside.enumerations.Nodup ∧
      ∀ value ∈ inside.enumerations, value ∉ inside.facets.map Prod.fst) ∧
      (∀ other : Content, other.HoldsFacets →
        (other.elements.map (·.1.unlocated)).Perm (inside.elements.map (·.1.unlocated)) →
        ((foldOf other).result = .ok () ↔ run.result = .ok ())) ∧
      (run.result ≠ .ok () → ∃ child ∈ inside.elements, ∃ key, child.1.valueKey? = some key ∧
        run.result = .error (.duplicateKey key child.1.name.localName child.1.position)) ∧
      (run.result = .ok () →
        run.context.keys = (inside.elements.filterMap (·.1.valueKey?)).eraseDups ∧
        (∀ value ∈ inside.enumerations, run.context.get? value = some (.context .empty)) ∧
        ∀ earlier name text later, inside.facets = earlier ++ (name, text) :: later →
          name ∉ later.map Prod.fst → run.context.get? name = some (.scalar text)) := by
  intro foldOf run
  have hagree : ∀ other : Content, other.HoldsFacets →
      (foldOf other).Agree ((Plan.ofEntries (Plan.values other)).exec options.replaces .empty) :=
    fun other hother => fold_agree_values hother hbase hdepth
  have hresult : ∀ other : Content, other.HoldsFacets → ((foldOf other).result = .ok () ↔
      other.enumerations.Nodup ∧
        ∀ value ∈ other.enumerations, value ∉ other.facets.map Prod.fst) := by
    intro other hother
    rw [(hagree other hother).result, Options.replaces_of_reject hreject,
      Plan.result_ofEntries_eq_ok (Plan.fills_values false _), or_iff_right Bool.false_ne_true]
    exact Plan.haveRoom_values
  have hfills := Plan.fills_values options.replaces inside
  refine ⟨hresult inside hinside, fun other hother hperm => ?_, fun hfails => ?_, fun hok => ?_⟩
  · rw [hresult other hother, hresult inside hinside,
      (Content.perm_enumerations hperm).nodup_iff]
    refine and_congr_right fun _ => forall_congr' fun value => ?_
    rw [(Content.perm_enumerations hperm).mem_iff,
      ((Content.perm_facets hperm).map Prod.fst).mem_iff]
  · rw [(hagree inside hinside).result] at hfails
    obtain ⟨before, entry, after, hsplit, -, -, herror⟩ := Plan.exists_first_error hfills hfails
    have hentry : entry ∈ Plan.values inside := by simp [hsplit]
    obtain ⟨child, hchild, hvalue⟩ := List.mem_filterMap.mp hentry
    refine ⟨child, hchild, entry.key, ?_, ?_⟩
    · rw [Plan.valueKey?_eq, hvalue]
      rfl
    · rw [(hagree inside hinside).result, herror, Plan.site_of_ofValue? hvalue]
      rfl
  · have hroom := Plan.haveRoom_values.mpr ((hresult inside hinside).mp hok)
    have hcontext : run.context = _ :=
      (hagree inside hinside).context.trans (Plan.exec_ofEntries (Or.inr hroom) hfills).2
    refine ⟨?_, fun value hvalue => ?_, fun earlier name text later hsplit hlast => ?_⟩
    · rw [hcontext, Context.keys_putAll_empty, ← Plan.keys_values, List.map_map]
      rfl
    · exact hcontext ▸ Plan.get?_enumeration hroom hvalue
    · exact hcontext ▸ Plan.get?_facet hroom hsplit hlast

end Xml.Place

namespace Sample

/-- A restriction of strings. -/
def restriction : StartTag :=
  ⟨⟨some xsdNamespace, "restriction"⟩, attributes [("base", "xs:string")], ⟨2, 1⟩⟩

/-- Two enumerations, a facet that is there twice, and one without a value. -/
def bounds : Content :=
  element "enumeration" 3 [("value", "b")] .empty
    (element "minLength" 4 [("value", "3")] .empty
      (element "enumeration" 5 [("value", "a")] (.comment "first" ⟨5, 30⟩ .empty)
        (element "pattern" 6 [] .empty (element "minLength" 7 [("value", "4")] .empty .empty))))

/-- The last facet counts, and one more enumeration under its name is a duplicate in front of it as
well as behind it. -/
theorem fold_facets_of_bounds :
    let rules := options .reject .reject
    let foldOf (inside : Content) :=
      (Place.child (schema .empty) 0 (.element restriction inside)).fold .standard rules ["base"]
        .empty
    let taken (after : Content) := element "enumeration" 8 [("value", "minLength")] .empty after
    2 ≤ rules.limits.depth ∧ (∀ a ∈ restriction.attributes, a.name.localName = "base") ∧
      bounds.HoldsFacets ∧ (foldOf bounds).result = .ok () ∧
      (foldOf bounds).context.keys = ["b", "minLength", "a"] ∧
      (foldOf bounds).context.get? "minLength" = some (.scalar "4") ∧
      (foldOf bounds).context.get? "a" = some (.context .empty) ∧
      (foldOf (taken bounds)).result ≠ .ok () ∧
      (foldOf (bounds.elementsThen (taken .empty))).result ≠ .ok () := by
  intro rules foldOf taken
  have hdepth : 2 ≤ rules.limits.depth := by decide
  have hbase : ∀ a ∈ restriction.attributes, a.name.localName = "base" := by decide
  have hbounds : bounds.HoldsFacets := ⟨by decide, by decide, by decide⟩
  have htaken : (taken bounds).HoldsFacets := ⟨by decide, by decide, by decide⟩
  have hbehind : (bounds.elementsThen (taken .empty)).HoldsFacets :=
    ⟨by decide, by decide, by decide⟩
  obtain ⟨hiff, -, -, hleft⟩ :=
    Xml.Place.fold_facets rules rfl hdepth (schema .empty) 0 restriction hbase bounds hbounds
  obtain ⟨hiff', horder, -⟩ :=
    Xml.Place.fold_facets rules rfl hdepth (schema .empty) 0 restriction hbase _ htaken
  have hok := hiff.mpr (by decide)
  obtain ⟨hkeys, henumerations, hfacets⟩ := hleft hok
  have hfails : (foldOf (taken bounds)).result ≠ .ok () := mt hiff'.mp (by decide)
  have hperm : ((bounds.elementsThen (taken .empty)).elements.map (·.1.unlocated)).Perm
      ((taken bounds).elements.map (·.1.unlocated)) := by decide
  exact ⟨hdepth, hbase, hbounds, hok, hkeys.trans (by decide),
    hfacets [("minLength", "3")] "minLength" "4" [] rfl (by decide),
    henumerations "a" (by decide), hfails, mt (horder _ hbehind hperm).mp hfails⟩

end Sample

end SchemaFold
