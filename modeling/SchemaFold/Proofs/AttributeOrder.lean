import SchemaFold.Proofs.Growth
import SchemaFold.Proofs.Plan.Shuffled
import SchemaFold.Proofs.Plan.Unlocated
/-!
Attributes in another order.

A rule looks up attributes by their names, and copies of attributes with different names may be
exchanged. So the order of attributes makes no difference but to the order of keys, as long as no
two attributes of an element have the same local name.

* `Xml.StartTag.Permuted`, `Xml.Content.Permuted`, `Xml.Place.Permuted`: trees whose attributes have
  changed places;
* `Xml.StartTag.Permuted.attribute?_eq`: a rule sees the same attributes;
* `Plan.shuffled_ofAttributes`: the same are copied, in another order;
* `Xml.Content.Permuted.shuffled_writes`: so is what is written for a tree;
* `Xml.Place.fold_permuted`: the statement for folds.
-/

namespace SchemaFold

open Xml (Attribute Content Place StartTag)

/-! ### Trees whose attributes have changed places -/

/-- Start tags with the same name and the same attributes in any order. No two of these have the
same local name. -/
structure Xml.StartTag.Permuted (start start' : StartTag) : Prop where
  name : start.name = start'.name
  attributes : start.attributes.Perm start'.attributes
  distinct : (start.attributes.map (·.name.localName)).Nodup

/-- Contents that differ at most in the order of attributes, on any elements, and in positions. -/
inductive Xml.Content.Permuted : Content → Content → Prop
  | empty : Permuted .empty .empty
  | element {start start' : StartTag} {inside inside' after after' : Content}
      (hstart : start.Permuted start') (hinside : Permuted inside inside')
      (h : Permuted after after') :
      Permuted (.element start inside after) (.element start' inside' after')
  | text (value : String) (position position' : Text.Position) {after after' : Content}
      (h : Permuted after after') :
      Permuted (.text value position after) (.text value position' after')
  | comment (value : String) (position position' : Text.Position) {after after' : Content}
      (h : Permuted after after') :
      Permuted (.comment value position after) (.comment value position' after')
  | instruction (position position' : Text.Position) {after after' : Content}
      (h : Permuted after after') :
      Permuted (.instruction position after) (.instruction position' after')

/-- Nodes that differ in this way, with all that is inside them: either both are elements or
neither. -/
structure Xml.Place.Permuted (place other : Place) : Prop where
  start : Option.Rel StartTag.Permuted place.start? other.start?
  inside : place.inside.Permuted other.inside

/-! ### What is seen of them -/

theorem Xml.Content.Permuted.firstText?_eq {content content' : Content}
    (h : content.Permuted content') : content.firstText? = content'.firstText? := by
  induction h with
  | empty => rfl
  | element _ _ _ _ ih => exact ih
  | text value position position' _ _ => rfl
  | comment value position position' _ ih => exact ih
  | instruction position position' _ ih => exact ih

namespace Xml.StartTag.Permuted

variable {start start' : StartTag}

/-- Of attributes with different local names, the same one is found in any order. -/
theorem find?_eq_of_perm {attributes attributes' : List Attribute} (h : attributes.Perm attributes')
    (hdistinct : (attributes.map (·.name.localName)).Nodup) (name : ExpandedName) :
    attributes.find? (fun a => a.name == name) = attributes'.find? (fun a => a.name == name) := by
  induction h with
  | nil => rfl
  | cons a _ ih =>
    rw [List.map_cons, List.nodup_cons] at hdistinct
    rw [List.find?_cons, List.find?_cons, ih hdistinct.2]
  | swap a b rest =>
    -- at most one of the two has the name
    by_cases ha : a.name = name
    · have hb : b.name ≠ name := fun heq => by simp [ha, heq] at hdistinct
      simp [ha, hb]
    · simp [ha, List.find?_cons]
  | trans hfirst _ ih ih' =>
    exact (ih hdistinct).trans (ih' ((hfirst.map _).nodup_iff.mp hdistinct))

theorem attribute?_eq (h : start.Permuted start') (name : String) :
    start.attribute? name = start'.attribute? name := by
  rw [attribute?, attribute?, find?_eq_of_perm h.attributes h.distinct]

/-- A rule makes the same of both. -/
theorem descentIn?_eq (h : start.Permuted start') (standard : StandardRule) (declared : Bool)
    {inside inside' : Content} (hinside : inside.Permuted inside') :
    standard.descentIn? declared start inside = standard.descentIn? declared start' inside' := by
  have hname : (Place.child (StandardRule.standIn declared) 0 (.element start inside)).name? =
      (Place.child (StandardRule.standIn declared) 0 (.element start' inside')).name? :=
    congrArg some h.name
  refine standard.descent?_congr_of_seen hname h.attribute?_eq ?_ fun _ => hinside.firstText?_eq
  rw [isInDeclaration, isInDeclaration, hname]
  rfl

end Xml.StartTag.Permuted

/-! ### Their writes -/

namespace Plan

/-- **Attributes are copied in another order.** -/
theorem shuffled_ofAttributes {attributes attributes' : List Attribute}
    (h : attributes.Perm attributes') (hdistinct : (attributes.map (·.name.localName)).Nodup)
    (ignored : List String) :
    (ofAttributes ignored attributes).Shuffled (ofAttributes ignored attributes') := by
  induction h with
  | nil => exact .refl _
  | cons a _ ih =>
    rw [List.map_cons, List.nodup_cons] at hdistinct
    rw [ofAttributes, ofAttributes]
    split
    · exact ih hdistinct.2
    · exact .append (.refl (.copy a.name.localName a.value .done)) (ih hdistinct.2)
  | swap a b rest =>
    have hne : b.name.localName ≠ a.name.localName := fun heq => by simp [heq] at hdistinct
    simp only [ofAttributes]
    -- an attribute that is ignored has no copy to exchange
    by_cases ha : ignored.contains a.name.localName = true
    · simp only [if_pos ha]
      exact .refl _
    · simp only [if_neg ha]
      split
      · exact .refl _
      · exact .swap hne b.value a.value _
  | trans hfirst _ ih ih' =>
    exact (ih hdistinct).trans (ih' ((hfirst.map _).nodup_iff.mp hdistinct))

/-- Elements are entered with their attributes in another order. -/
theorem Shuffled.enter {p q : Plan} (h : p.Shuffled q) {attributes attributes' : List Attribute}
    (hperm : attributes.Perm attributes') (hdistinct : (attributes.map (·.name.localName)).Nodup)
    (options : Options) (ignored : List String) (depth : Nat) :
    (enter options ignored attributes depth p).Shuffled
      (Plan.enter options ignored attributes' depth q) := by
  rw [Plan.enter, Plan.enter]
  rcases options.limits.checkDepth depth with fault | _
  · exact .refl _
  · exact .append (shuffled_ofAttributes hperm hdistinct ignored) h

end Plan

/-- **What is written for a tree is copied in another order**, apart from positions. -/
theorem Xml.Content.Permuted.shuffled_writes {content content' : Content}
    (h : content.Permuted content') (choose : ElementKind → Option StandardRule)
    (options : Options) (declared : Bool) (depth : Nat) :
    (content.writes choose options declared depth).unlocated.Shuffled
      (content'.writes choose options declared depth).unlocated := by
  induction h generalizing declared depth with
  | empty => exact .refl _
  | element hstart hinside _ ihInside ih =>
    rw [writes, writes, Plan.unlocated_append, Plan.unlocated_append]
    refine .append ?_ (ih declared depth)
    refine Plan.Shuffled.isCongruence.unlocated_ofElement (congrArg _ hstart.name)
      (fun standard _ => ⟨hstart.name, hstart.descentIn?_eq standard declared hinside⟩)
      options.missingIdentifier fun ignored => ?_
    rw [Plan.unlocated_enter, Plan.unlocated_enter, ← hstart.name]
    exact (ihInside _ (depth + 1)).enter hstart.attributes hstart.distinct options ignored depth
  | text value position position' _ ih => exact ih declared depth
  | comment value position position' _ ih => exact ih declared depth
  | instruction position position' _ ih => exact ih declared depth

/-! ### Folds -/

namespace Xml.Place

variable {choose : ElementKind → Option StandardRule} {place other : Place}

/-- The writes for a node are those for the other one in another order. -/
theorem Permuted.shuffled_writes (h : place.Permuted other)
    (choose : ElementKind → Option StandardRule) (options : Options) (ignored : List String) :
    (place.writes choose options ignored).unlocated.Shuffled
      (other.writes choose options ignored).unlocated := by
  rw [writes, writes, Plan.unlocated_enter, Plan.unlocated_enter]
  have hinside := h.inside.shuffled_writes choose options
  have hstart := h.start
  rw [attributes, attributes, name?, name?]
  generalize place.start? = found, other.start? = found' at hstart ⊢
  cases hstart with
  | none => exact (hinside _ 2).enter .nil List.nodup_nil options ignored 1
  | some hpermuted =>
    rw [Option.map_some, Option.map_some, ← hpermuted.name]
    exact (hinside _ 2).enter hpermuted.attributes hpermuted.distinct options ignored 1

/-- **The order of attributes does not count.** In two trees that differ only in the order of
attributes and in positions no element has two attributes with the same local name. Under built-in
rules, and whatever is to become of duplicate keys and of elements without an identifier, both folds
end in the same way, with the same error but for the position that it names, and also after an error
the contexts that they leave have the same entries at every level. If no level had a key twice
before, these are equal when compared. -/
theorem fold_permuted (choose : ElementKind → Option StandardRule) (options : Options)
    (ignored : List String) (h : place.Permuted other) (c : Context) :
    let run := place.fold (.ofStandard choose) options ignored c
    let run' := other.fold (.ofStandard choose) options ignored c
    run.result.mapError Error.unlocated = run'.result.mapError Error.unlocated ∧
      run.context.Reordered run'.context ∧
      (c.Distinct → run.context.equivalent run'.context = true) := by
  intro run run'
  have hplace := place.fold_agree_unlocated choose options ignored c
  have hother := other.fold_agree_unlocated choose options ignored c
  have hsame := (h.shuffled_writes choose options ignored).exec options.replaces (.refl c)
  have hcontext : run.context.Reordered run'.context := by
    rw [hplace.context, hother.context]
    exact hsame.context
  refine ⟨?_, hcontext, fun hdistinct => hcontext.equivalent ((fold_grows c).distinct hdistinct)⟩
  rw [hplace.result, hother.result, hsame.result]

end Xml.Place

namespace Sample

/-- A schema with an element, a sequence inside this, and a type after it, on some line. -/
def ordered (line : Nat) (root named bounded : List (String × String)) : Place :=
  let sequence := element "sequence" line bounded .empty .empty
  let type := element "complexType" (line + 1) [("name", "version")] .empty .empty
  .child (schema .empty) 0
    (.element ⟨⟨some xsdNamespace, "schema"⟩, attributes root, ⟨1, 1⟩⟩
      (element "element" line named sequence type))

/-- In both orders the name of the type is that of an attribute. The contexts that this error leaves
are different, though not when compared. -/
theorem fold_permuted_of_ordered :
    let rules := options .reject .reject
    let place := ordered 2 [("version", "1"), ("id", "s")] [("name", "X"), ("type", "t")]
      [("minOccurs", "0"), ("maxOccurs", "2")]
    let other := ordered 3 [("id", "s"), ("version", "1")] [("type", "t"), ("name", "X")]
      [("maxOccurs", "2"), ("minOccurs", "0")]
    let run := place.fold .standard rules [] .empty
    let run' := other.fold .standard rules [] .empty
    place.Permuted other ∧ run.result = .error (.duplicateKey "version" "complexType" ⟨3, 1⟩) ∧
      run.result.mapError Error.unlocated = run'.result.mapError Error.unlocated ∧
      run.context ≠ run'.context ∧ run.context.equivalent run'.context = true := by
  intro rules place other run run'
  have hinside : place.inside.Permuted other.inside := by
    refine .element ⟨rfl, by decide, by decide⟩ (.element ⟨rfl, by decide, by decide⟩ .empty .empty)
      (.element ⟨rfl, by decide, by decide⟩ .empty .empty)
  have hpermuted : place.Permuted other := ⟨.some ⟨rfl, by decide, by decide⟩, hinside⟩
  obtain ⟨hresult, -, hequal⟩ :=
    Xml.Place.fold_permuted StandardRule.ofKind? rules [] hpermuted .empty
  exact ⟨hpermuted, rfl, hresult, by decide, hequal trivial⟩

end Sample

end SchemaFold
