import SchemaFold.Proofs.Elements
import SchemaFold.Proofs.Plan.Reordered
import SchemaFold.Proofs.Visibility
/-!
Declarations in another order.

An element that is a construct with an identifier only opens a context of its own. Where all
children of an element are of this kind and duplicate keys are rejected, their order makes no
difference but to the order of the keys.

* `Xml.StartTag.isConstruct`, `Xml.StartTag.key`: the elements that open a context under an
  identifier, and that identifier;
* `Plan.forElement_of_isConstruct`: they do nothing else;
* `Xml.Content.Reordered`: trees in which such elements have changed places, whatever the positions;
* `Xml.Content.Reordered.reordered_writes`: so have the contexts that are written for them;
* `Xml.Place.fold_reordered`: the statement for folds.
-/

namespace SchemaFold

open Xml (Content Place StartTag)

/-! ### Constructs that change places -/

/-- A named construct with a name or a reference that is not blank. -/
def Xml.StartTag.isConstruct (start : StartTag) : Bool :=
  ["element", "complexType", "simpleType", "group", "attributeGroup", "attribute"].any
    start.name.isXsd && start.isIdentified

/-- The identifier that a construct goes under: for an attribute it is the reference, or else the
name, and for all others the name, or else the reference. -/
def Xml.StartTag.key (start : StartTag) : String :=
  let order := if start.name.isXsd "attribute" then ["ref", "name"] else ["name", "ref"]
  (order.findSome? (fun name => Text.nonBlank? (start.attribute? name))).getD ""

/-- A content in which elements have changed places, at any number of levels. Children of an element
change places only if all of them are constructs, or all from some node on. Between them other nodes
stay where they are. Positions do not count, so that the two may be read from different texts. -/
inductive Xml.Content.Reordered : Content → Content → Prop
  | empty : Reordered .empty .empty
  | element {start start' : StartTag} {inside inside' after after' : Content}
      (hname : start.name = start'.name) (hattributes : start.attributes = start'.attributes)
      (hinside : Reordered inside inside') (h : Reordered after after') :
      Reordered (.element start inside after) (.element start' inside' after')
  | text (value : String) (position position' : Text.Position) {after after' : Content}
      (h : Reordered after after') :
      Reordered (.text value position after) (.text value position' after')
  | comment (value : String) (position position' : Text.Position) {after after' : Content}
      (h : Reordered after after') :
      Reordered (.comment value position after) (.comment value position' after')
  | instruction (position position' : Text.Position) {after after' : Content}
      (h : Reordered after after') :
      Reordered (.instruction position after) (.instruction position' after')
  | permute {content content' : Content} {elements : List (StartTag × Content)}
      (h : Reordered content content')
      (hconstructs : ∀ child ∈ content'.elements, child.1.isConstruct = true)
      (hperm : content'.elements.Perm elements) : Reordered content (content'.refill elements)

theorem Xml.Content.Reordered.firstText?_eq {content content' : Content}
    (h : content.Reordered content') : content.firstText? = content'.firstText? := by
  induction h with
  | empty => rfl
  | element _ _ _ _ _ ih => exact ih
  | text value position position' _ _ => rfl
  | comment value position position' _ ih => exact ih
  | instruction position position' _ ih => exact ih
  | permute _ _ _ ih => exact ih.trans (firstText?_refill _ _).symm

/-! ### Their writes -/

/-- A construct has a rule that looks for an identifier, and that finds it where its key is. -/
theorem exists_standardOf?_of_isConstruct {start : StartTag} (h : start.isConstruct = true) :
    ∃ standard, standardOf? StandardRule.ofKind? start.name = some standard ∧
      standard.identifies = true ∧ ∀ declared inside,
        standard.descentIn? declared start inside = some (.nested start.key) := by
  have hrules : ∀ name ∈ ["element", "complexType", "simpleType", "group", "attributeGroup",
      "attribute"], (standardOf? StandardRule.ofKind? ⟨some xsdNamespace, name⟩).any
        (fun standard => standard.identifies && standard.order ==
          if ExpandedName.isXsd ⟨some xsdNamespace, name⟩ "attribute" then ["ref", "name"]
          else ["name", "ref"]) = true := by decide
  obtain ⟨hany, hidentified⟩ := Bool.and_eq_true_iff.mp h
  obtain ⟨name, hname, hxsd⟩ := List.any_eq_true.mp hany
  have hrule := hrules name hname
  rw [← ExpandedName.isXsd_iff.mp hxsd] at hrule
  rcases hfound : standardOf? StandardRule.ofKind? start.name with _ | standard
  · rw [hfound] at hrule
    exact absurd hrule (by simp)
  · rw [hfound] at hrule
    obtain ⟨hidentifies, horder⟩ := Bool.and_eq_true_iff.mp hrule
    obtain ⟨key, hkey⟩ := StandardRule.exists_findSome?_of_isIdentified hidentified standard
    have hsame : start.key = key := by
      rw [Xml.StartTag.key, ← eq_of_beq horder, hkey]
      rfl
    exact ⟨standard, rfl, hidentifies, hsame ▸ StandardRule.descentIn?_eq_nested hidentifies hkey⟩

namespace Plan

/-- What fills the context of a construct at a depth. -/
def ofConstruct (options : Options) (depth : Nat) (child : StartTag × Content) : Plan :=
  enter options StandardRule.nameAndRef child.1.attributes depth
    (child.2.writes StandardRule.ofKind? options (isDeclaration (some child.1.name)) (depth + 1))

/-- A construct opens a context under its identifier, and does nothing else. -/
theorem forElement_of_isConstruct {child : StartTag × Content} (h : child.1.isConstruct = true)
    (options : Options) (declared : Bool) (depth : Nat) :
    forElement StandardRule.ofKind? options declared depth child =
      .nested child.1.site child.1.key (ofConstruct options depth child) .done := by
  obtain ⟨standard, hstandard, hidentifies, hdescent⟩ := exists_standardOf?_of_isConstruct h
  have hignored : standard.ignored = StandardRule.nameAndRef := by
    cases standard <;> first | rfl | exact absurd hidentifies (by decide)
  have hclosing : standard.closing = [] := by
    cases standard <;> first | rfl | exact absurd hidentifies (by decide)
  rw [forElement, ofElement_of_descent hstandard (hdescent declared child.2), hclosing, hignored]
  rfl

/-- **Constructs may be written in any order.** -/
theorem reordered_inOrder {elements elements' : List (StartTag × Content)}
    (hperm : elements.Perm elements')
    (hconstructs : ∀ child ∈ elements, child.1.isConstruct = true) (options : Options)
    (declared : Bool) (depth : Nat) :
    (inOrder (elements.map (forElement StandardRule.ofKind? options declared depth))).Reordered
      (inOrder (elements'.map (forElement StandardRule.ofKind? options declared depth))) := by
  induction hperm with
  | nil => exact .refl _
  | cons child _ ih =>
    refine .append (.refl _) (ih fun other hother => ?_)
    exact hconstructs other (List.mem_cons_of_mem child hother)
  | swap child other rest =>
    have hchild := forElement_of_isConstruct (hconstructs child (by simp)) options declared depth
    have hother := forElement_of_isConstruct (hconstructs other (by simp)) options declared depth
    show Reordered (forElement _ _ _ _ other ++ (forElement _ _ _ _ child ++ _))
      (forElement _ _ _ _ child ++ (forElement _ _ _ _ other ++ _))
    rw [hchild, hother]
    exact .swap _ _ _ _ _ _ _
  | trans hfirst _ ih ih' =>
    refine (ih hconstructs).trans (ih' fun child hchild => ?_)
    exact hconstructs child (hfirst.mem_iff.mpr hchild)

end Plan

/-- Without positions plans are still in another order. -/
theorem Plan.Reordered.unlocated {p q : Plan} (h : p.Reordered q) :
    p.unlocated.Reordered q.unlocated := by
  induction h with
  | refl p => exact .refl _
  | append _ _ ih ih' =>
    rw [unlocated_append, unlocated_append]
    exact .append ih ih'
  | nested site key _ _ ihInner ih => exact .nested site.unlocated key ihInner ih
  | swap site site' key key' inner inner' rest => exact .swap _ _ key key' _ _ _
  | trans _ _ ih ih' => exact ih.trans ih'

/-- **The contexts of reordered constructs are written in another order**, apart from positions. -/
theorem Xml.Content.Reordered.reordered_writes {content content' : Content}
    (h : content.Reordered content') (options : Options) (declared : Bool) (depth : Nat) :
    (content.writes StandardRule.ofKind? options declared depth).unlocated.Reordered
      (content'.writes StandardRule.ofKind? options declared depth).unlocated := by
  induction h generalizing declared depth with
  | empty => exact .refl _
  | @element start start' inside inside' _ _ hname hattributes hinside _ ihInside ih =>
    -- a rule sees the same of both elements
    have hlike : start.LooksLike StandardRule.ofKind? inside start' inside' :=
      ⟨hattributes, fun _ => hname, fun _ => hinside.firstText?_eq⟩
    rw [writes, writes, Plan.unlocated_append, Plan.unlocated_append]
    refine .append ?_ (ih declared depth)
    refine Plan.Reordered.isCongruence.unlocated_ofElement (congrArg _ hname)
      (fun _ hstandard => ⟨hname, hlike.descentIn?_eq hstandard declared⟩)
      options.missingIdentifier fun ignored => ?_
    rw [Plan.unlocated_enter, Plan.unlocated_enter, hname, hattributes]
    exact Plan.Reordered.isCongruence.enter (ihInside _ (depth + 1)) options ignored _ depth
  | text value position position' _ ih => exact ih declared depth
  | comment value position position' _ ih => exact ih declared depth
  | instruction position position' _ ih => exact ih declared depth
  | permute _ hconstructs hperm ih =>
    refine (ih declared depth).trans ?_
    rw [writes_eq_inOrder, writes_eq_inOrder, elements_refill hperm.length_eq.symm]
    exact (Plan.reordered_inOrder hperm hconstructs options declared depth).unlocated

/-! ### Folds -/

namespace Xml.Place

variable {options : Options} {place other : Place}

/-- A fold that rejects duplicate keys comes to its end just if its writes do. -/
theorem completes_unlocated_iff (hreject : options.duplicateKeys = .reject) (ignored : List String)
    (place : Place) (c d : Context) :
    (place.writes StandardRule.ofKind? options ignored).unlocated.Completes c d ↔
      (place.fold .standard options ignored c).result = .ok () ∧
        (place.fold .standard options ignored c).context = d := by
  have hagree := place.fold_agree_unlocated StandardRule.ofKind? options ignored c
  rw [Options.replaces_of_reject hreject] at hagree
  rw [Plan.completes_iff, RuleTable.standard, hagree.result_eq_ok_iff, hagree.context]

/-- **The order of constructs does not count.** Under the built-in rules and the policy that rejects
duplicate keys, a fold comes to its end just if it does after elements have changed places that have
only constructs for siblings, and the contexts that are left have the same entries at every level.
If no level had a key twice before, they are equal when compared. The positions in the two trees may
be any. -/
theorem fold_reordered (hreject : options.duplicateKeys = .reject) (ignored : List String)
    (hname : other.name? = place.name?) (hattributes : other.attributes = place.attributes)
    (hinside : place.inside.Reordered other.inside) (c : Context) :
    let run := place.fold .standard options ignored c
    let run' := other.fold .standard options ignored c
    (run.result = .ok () ↔ run'.result = .ok ()) ∧
      (run.result = .ok () → run.context.Reordered run'.context ∧
        (c.Distinct → run.context.equivalent run'.context = true)) := by
  intro run run'
  have hwrites : (place.writes StandardRule.ofKind? options ignored).unlocated.Reordered
      (other.writes StandardRule.ofKind? options ignored).unlocated := by
    rw [writes, writes, Plan.unlocated_enter, Plan.unlocated_enter, hname, hattributes]
    exact Plan.Reordered.isCongruence.enter (hinside.reordered_writes options _ 2) options ignored
      place.attributes 1
  have hforward : run.result = .ok () →
      run'.result = .ok () ∧ run.context.Reordered run'.context := by
    intro hok
    have hrun := (completes_unlocated_iff hreject ignored place c run.context).mpr ⟨hok, rfl⟩
    obtain ⟨f, hf, hsame⟩ := hwrites.completes (.refl c) hrun
    obtain ⟨hok', hcontext⟩ := (completes_unlocated_iff hreject ignored other c f).mp hf
    exact ⟨hok', hcontext ▸ hsame⟩
  have hbackward : run'.result = .ok () → run.result = .ok () := by
    intro hok'
    have hrun := (completes_unlocated_iff hreject ignored other c run'.context).mpr ⟨hok', rfl⟩
    obtain ⟨f, hf, _⟩ := hwrites.symm.completes (.refl c) hrun
    exact ((completes_unlocated_iff hreject ignored place c f).mp hf).1
  refine ⟨⟨fun hok => (hforward hok).1, hbackward⟩, fun hok => ?_⟩
  have hsame := (hforward hok).2
  have hrun := (completes_unlocated_iff hreject ignored place c run.context).mpr ⟨hok, rfl⟩
  exact ⟨hsame, fun hdistinct => hsame.equivalent (hrun.distinct hdistinct)⟩

end Xml.Place

namespace Sample

/-- A type and an element change places, and so do the attributes inside the type. In both trees the
lines are numbered from the top. -/
theorem fold_reordered_of_type :
    let rules := options .reject .skip
    let first (line : Nat) (after : Content) :=
      element "attribute" line [("name", "b")] .empty after
    let second (line : Nat) (after : Content) :=
      element "attribute" line [("ref", "a")] .empty after
    let type (line : Nat) (inside after : Content) :=
      element "complexType" line [("name", "T")] inside after
    let last (line : Nat) (after : Content) :=
      element "element" line [("name", "X"), ("type", "T")] .empty after
    let place := schema (type 2 (first 3 (second 4 .empty)) (last 5 .empty))
    let other := schema (last 2 (type 3 (second 4 (first 5 .empty)) .empty))
    let run := place.fold .standard rules [] .empty
    let run' := other.fold .standard rules [] .empty
    place.inside.Reordered other.inside ∧ run.result = .ok () ∧ run'.result = .ok () ∧
      run.context ≠ run'.context ∧ run.context.equivalent run'.context = true := by
  intro rules first second type last place other run run'
  have hinner : (first 3 (second 4 .empty)).Reordered (second 4 (first 5 .empty)) := by
    have hlines : (first 3 (second 4 .empty)).Reordered (first 5 (second 4 .empty)) :=
      .element rfl rfl .empty (.element rfl rfl .empty .empty)
    exact .permute hlines (by decide) (.swap _ _ [])
  have hinside : place.inside.Reordered other.inside := by
    have hlines : place.inside.Reordered (type 3 (second 4 (first 5 .empty)) (last 2 .empty)) :=
      .element rfl rfl hinner (.element rfl rfl .empty .empty)
    exact .permute hlines (by decide) (.swap _ _ [])
  have hok : run.result = .ok () := rfl
  have hreject : rules.duplicateKeys = .reject := rfl
  have hname : other.name? = place.name? := rfl
  have hattributes : other.attributes = place.attributes := rfl
  obtain ⟨hiff, hequal⟩ :=
    Xml.Place.fold_reordered hreject [] hname hattributes hinside .empty
  refine ⟨hinside, hok, hiff.mp hok, ?_, (hequal hok).2 trivial⟩
  decide

end Sample

end SchemaFold
