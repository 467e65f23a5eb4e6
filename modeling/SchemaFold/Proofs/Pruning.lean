import SchemaFold.Proofs.Plan.Report
import SchemaFold.Proofs.Plan.Writes
import SchemaFold.Proofs.Sample
/-!
Leaving out constructs without an identifier is the same as removing them from the tree.

* `lacksIdentifier`: an element for which a rule needs an identifier that is not there;
* `Xml.Content.prune`: a content without these elements and all that is in them;
* `Xml.Place.prune`: the same place in a tree that is pruned below it;
* `Xml.Content.silent_plan_prune`: a plan that leaves elements out is that of the pruned content;
* `Xml.Place.fold_agree_prune`: the statement for folds.
-/

namespace SchemaFold

open Xml (Attribute Content Place StartTag)

/-! ### Elements without an identifier -/

/-- An element whose rule looks for an identifier, with neither a name nor a reference that is not
blank, and no type definition in an element or attribute declaration. -/
def lacksIdentifier (choose : ElementKind → Option StandardRule) (parent : Option ExpandedName)
    (start : StartTag) : Bool :=
  match standardOf? choose start.name with
  | none => false
  | some standard =>
    standard.identifies && (Text.nonBlank? (start.attribute? "name")).isNone &&
      (Text.nonBlank? (start.attribute? "ref")).isNone &&
      !(standard == .typeDefinition && isDeclaration parent)

namespace StandardRule

variable {place : Place} {start : StartTag}

/-- A built-in rule has no answer just for the elements that lack an identifier. -/
theorem descent?_eq_none_iff {choose : ElementKind → Option StandardRule}
    {standard : StandardRule} (hstart : place.start? = some start)
    (hstandard : standardOf? choose start.name = some standard) :
    standard.descent? place = none ↔
      lacksIdentifier choose (place.parent?.bind Place.name?) start = true := by
  have hattribute : ∀ name, start.attribute? name = place.attribute? name := by
    intro name
    rw [Place.attribute?, hstart]
    rfl
  have hdeclaration := isInDeclaration_eq hstart (uri_of_standardOf? hstandard)
  rw [lacksIdentifier, hstandard, hattribute, hattribute, ← hdeclaration]
  cases standard with
  | nameThenRef =>
    simp [descent?, identifies, identifier?_eq_none]
  | refThenName =>
    simp [descent?, identifies, identifier?_eq_none, and_comm]
  | typeDefinition =>
    rw [descent?, nameAndRef]
    cases hinside : isInDeclaration place
    · simp [identifies, identifier?_eq_none]
    · rcases identifier? place ["name", "ref"] with _ | key
      · simp
      · simp
  | extension => simp [descent?, identifies]
  | restriction => simp [descent?, identifies]
  | documentation =>
    rw [descent?]
    rcases place.inside.firstText? with _ | text
    · simp [identifies]
    · simp [identifies]
  | enumeration =>
    rw [descent?]
    rcases place.attribute? "value" with _ | value
    · simp [identifies]
    · simp [identifies]
  | facet =>
    rw [descent?]
    rcases place.attribute? "value" with _ | value
    · simp [identifies]
    · simp [identifies]
  | simpleContent => simp [descent?, identifies]
  | complexContent => simp [descent?, identifies]

end StandardRule

/-! ### Pruning -/

/-- A content of an element named `parent` without the elements that lack an identifier. -/
def Xml.Content.prune (choose : ElementKind → Option StandardRule) :
    (parent : Option ExpandedName) → Content → Content
  | _, .empty => .empty
  | parent, .element start inside after =>
    if lacksIdentifier choose parent start then prune choose parent after
    else .element start (prune choose (some start.name) inside) (prune choose parent after)
  | parent, .text value position after => .text value position (prune choose parent after)
  | parent, .comment value position after => .comment value position (prune choose parent after)
  | parent, .instruction position after => .instruction position (prune choose parent after)

theorem Xml.Content.firstText?_prune (choose : ElementKind → Option StandardRule)
    (parent : Option ExpandedName) (content : Content) :
    (content.prune choose parent).firstText? = content.firstText? := by
  induction content generalizing parent with
  | empty => rfl
  | element start inside after _ ih =>
    rw [prune]
    split
    · exact ih parent
    · exact ih parent
  | text value position after _ => rfl
  | comment value position after ih => exact ih parent
  | instruction position after ih => exact ih parent

namespace Plan

theorem silent_enter_congr {options options' : Options} (hlimits : options.limits = options'.limits)
    (ignored : List String) (attributes : List Attribute) (depth : Nat) {inside inside' : Plan}
    (h : inside.silent = inside'.silent) :
    (enter options ignored attributes depth inside).silent =
      (enter options' ignored attributes depth inside').silent := by
  rw [silent_enter, silent_enter, enter, enter, hlimits, h]

/-- An element for which a built-in rule has an answer has the same plan under all options. -/
theorem silent_ofStandard_congr {standard : StandardRule} {place other : Place}
    {descent : Descent} (hdescent : standard.descent? place = some descent)
    (hother : standard.descent? other = some descent) (hsite : place.site = other.site)
    (missing missing' : MissingIdentifier) {fill fill' : List String → Plan}
    (hfill : ∀ ignored, (fill ignored).silent = (fill' ignored).silent) :
    (ofStandard standard missing place fill).silent =
      (ofStandard standard missing' other fill').silent := by
  rw [ofStandard, ofStandard, hdescent, hother]
  show (descend _ _ _ _).silent = (descend _ _ _ _).silent
  rw [silent_descend, silent_descend, hfill, hsite]

end Plan

namespace Xml.Content

variable {choose : ElementKind → Option StandardRule} {skipping rejecting : Options}

/-- An element that lacks an identifier does nothing if it may be left out. -/
theorem silent_dispatch_of_lacks (hskip : skipping.missingIdentifier = .skip) {parent : Place}
    {start : StartTag} (hlacks : lacksIdentifier choose parent.name? start = true) (number : Nat)
    (inside : Content) (fill : List String → Plan) :
    (Plan.dispatch (.ofStandard choose) skipping (.child parent number (.element start inside))
      start.name fill).silent = .done := by
  rw [Plan.dispatch_ofStandard]
  rcases hstandard : standardOf? choose start.name with _ | standard
  · rw [lacksIdentifier, hstandard] at hlacks
    exact absurd hlacks (by simp)
  · have hdescent : standard.descent? (.child parent number (.element start inside)) = none :=
      (StandardRule.descent?_eq_none_iff rfl hstandard).mpr hlacks
    show (Plan.ofStandard standard _ _ _).silent = _
    rw [Plan.ofStandard, hdescent, hskip]
    rfl

/-- **A plan that leaves elements out is the plan of the pruned content**, but for its events. The
pruned content may be anywhere, as long as its parent has the same name. -/
theorem silent_plan_prune (hskip : skipping.missingIdentifier = .skip)
    (hlimits : skipping.limits = rejecting.limits) (content : Content) (parent other : Place)
    (hname : parent.name? = other.name?) (depth number number' : Nat) :
    (content.plan (.ofStandard choose) skipping parent depth number).silent =
      ((content.prune choose parent.name?).plan (.ofStandard choose) rejecting other depth
        number').silent := by
  induction content generalizing parent other depth number number' with
  | empty => rfl
  | element start inside after ihInside ihAfter =>
    have hafter := ihAfter parent other hname depth (number + 1)
    rw [plan, Plan.silent_append, prune]
    by_cases hlacks : lacksIdentifier choose parent.name? start = true
    · rw [if_pos hlacks, silent_dispatch_of_lacks hskip hlacks]
      exact hafter number'
    · rw [if_neg hlacks, plan, Plan.silent_append, hafter (number' + 1),
        Plan.dispatch_ofStandard, Plan.dispatch_ofStandard]
      congr 1
      -- the element stays, and its inside is pruned under its own name
      have hfill : ∀ ignored,
          (Plan.enter skipping ignored start.attributes depth
            (inside.plan (.ofStandard choose) skipping
              (.child parent number (.element start inside)) (depth + 1) 0)).silent =
          (Plan.enter rejecting ignored start.attributes depth
            ((inside.prune choose (some start.name)).plan (.ofStandard choose) rejecting
              (.child other number' (.element start (inside.prune choose (some start.name))))
              (depth + 1) 0)).silent :=
        fun ignored => Plan.silent_enter_congr hlimits ignored start.attributes depth
          (ihInside (.child parent number (.element start inside))
            (.child other number' (.element start (inside.prune choose (some start.name))))
            rfl (depth + 1) 0 0)
      rcases hstandard : standardOf? choose start.name with _ | standard
      · exact hfill []
      · obtain ⟨descent, hdescent⟩ : ∃ descent,
            standard.descent? (.child parent number (.element start inside)) = some descent := by
          refine Option.ne_none_iff_exists'.mp fun hnone => hlacks ?_
          exact (StandardRule.descent?_eq_none_iff rfl hstandard).mp hnone
        have hsame : standard.descent? (.child parent number (.element start inside)) =
            standard.descent? (.child other number'
              (.element start (inside.prune choose (some start.name)))) :=
          standard.descent?_congr _ _ rfl hname (firstText?_prune choose _ inside).symm
        exact Plan.silent_ofStandard_congr hdescent (hsame.symm.trans hdescent) rfl _ _ hfill
  | text value position after ih => exact ih parent other hname depth (number + 1) (number' + 1)
  | comment value position after ih => exact ih parent other hname depth (number + 1) (number' + 1)
  | instruction position after ih => exact ih parent other hname depth (number + 1) (number' + 1)

end Xml.Content

/-! ### Pruned places -/

section
variable (choose : ElementKind → Option StandardRule)

theorem Xml.Content.prune_cons_misc (parent : Option ExpandedName) (misc : Misc)
    (content : Content) :
    (Content.cons misc.node content).prune choose parent =
      .cons misc.node (content.prune choose parent) := by
  cases misc <;> rfl

/-- What stands beside a root element stays. -/
theorem Xml.Content.prune_foldr_misc (parent : Option ExpandedName) (miscs : List Misc)
    (content : Content) :
    ((miscs.map Misc.node).foldr Content.cons content).prune choose parent =
      (miscs.map Misc.node).foldr Content.cons (content.prune choose parent) := by
  induction miscs with
  | nil => rfl
  | cons misc rest ih =>
    rw [List.map_cons, List.foldr_cons, List.foldr_cons, prune_cons_misc, ih]

/-- A document with its root element pruned inside. -/
def Xml.Document.prune (document : Document) : Document :=
  { document with inside := document.inside.prune choose (some document.root.name) }

/-- A node pruned inside. -/
def Xml.Node.prune : Node → Node
  | .element start inside => .element start (inside.prune choose (some start.name))
  | node => node

/-- The same place in a tree that is pruned below it. -/
def Xml.Place.prune : Place → Place
  | .top document => .top (document.prune choose)
  | .child parent number node => .child parent number (node.prune choose)

/-- The place is a document whose root element lacks an identifier. -/
def Xml.Place.losesRoot : Place → Bool
  | .top document => lacksIdentifier choose none document.root
  | .child .. => false

theorem Xml.Document.content_prune {document : Document}
    (h : lacksIdentifier choose none document.root = false) :
    (document.prune choose).content = document.content.prune choose none := by
  have hepilog : (Content.ofNodes (document.epilog.map Misc.node)).prune choose none =
      Content.ofNodes (document.epilog.map Misc.node) :=
    Content.prune_foldr_misc choose none document.epilog .empty
  rw [content, content, Content.prune_foldr_misc, Content.prune, h, hepilog]
  rfl

theorem Xml.Place.start?_prune (place : Place) : (place.prune choose).start? = place.start? := by
  cases place with
  | top document => rfl
  | child parent number node => cases node <;> rfl

theorem Xml.Place.inside_prune {place : Place} (h : place.losesRoot choose = false) :
    (place.prune choose).inside = place.inside.prune choose place.name? := by
  cases place with
  | top document => exact Document.content_prune choose h
  | child parent number node => cases node <;> rfl

end

/-! ### Folds -/

namespace Xml.Place

/-- The fold of a node if it had another inside. -/
def foldOver (table : RuleTable) (options : Options) (ignored : List String) (place : Place)
    (inside : Content) (c : Context) : Run :=
  Fold.enter options ignored place.attributes 1
    (fun c => inside.fold table options place 2 0 c) c

/-- **To leave out constructs without an identifier is to remove them from the tree.** A fold that
leaves them out ends like the fold over the pruned inside under the other policy, and leaves the
same context; and this one misses no identifier. It is the fold of any node with the same start tag
and this inside: of the same place in the pruned tree, unless that is a document that loses its root
element. -/
theorem fold_agree_prune (choose : ElementKind → Option StandardRule) (options : Options)
    (ignored : List String) (place : Place) (c : Context) :
    let table := RuleTable.ofStandard choose
    let skipping := { options with missingIdentifier := .skip }
    let rejecting := { options with missingIdentifier := .reject }
    let inside := place.inside.prune choose place.name?
    let run := place.foldOver table rejecting ignored inside c
    (place.fold table skipping ignored c).Agree run ∧
      (∀ element location, run.result ≠ .error (.missingIdentifier element location)) ∧
      (∀ pruned : Place, pruned.start? = place.start? → pruned.inside = inside →
        (place.fold table skipping ignored c).Agree (pruned.fold table rejecting ignored c)) ∧
      (place.losesRoot choose = false →
        (place.fold table skipping ignored c).Agree
          ((place.prune choose).fold table rejecting ignored c)) := by
  intro table skipping rejecting inside run
  have hblind := RuleTable.isBlind_ofStandard choose
  have hskip : skipping.missingIdentifier = .skip := rfl
  have hlimits : skipping.limits = rejecting.limits := rfl
  -- the pruned inside in any node with the same start tag
  have hover : ∀ pruned : Place, pruned.start? = place.start? →
      (place.fold table skipping ignored c).Agree
        (pruned.foldOver table rejecting ignored inside c) := by
    intro pruned hstart
    have hname : place.name? = pruned.name? := by rw [Place.name?, Place.name?, hstart]
    have hattributes : pruned.attributes = place.attributes := by
      rw [Place.attributes, Place.attributes, hstart]
    have hsilent : (place.plan table skipping ignored).silent =
        (Plan.enter rejecting ignored place.attributes 1
          (inside.plan table rejecting pruned 2 0)).silent :=
      Plan.silent_enter_congr hlimits ignored place.attributes 1
        (place.inside.silent_plan_prune hskip hlimits place pruned hname 2 0 0)
    have hrun : pruned.foldOver table rejecting ignored inside c =
        (Plan.enter rejecting ignored place.attributes 1
          (inside.plan table rejecting pruned 2 0)).exec options.replaces c := by
      rw [foldOver, Plan.exec_enter, hattributes]
      congr 1
      funext c
      exact inside.fold_eq_exec hblind rejecting pruned 2 0 c
    rw [fold_eq_exec hblind, hrun]
    exact Plan.agree_of_silent_eq hsilent options.replaces c
  have hfold : ∀ pruned : Place, pruned.start? = place.start? → pruned.inside = inside →
      (place.fold table skipping ignored c).Agree (pruned.fold table rejecting ignored c) := by
    intro pruned hstart hinside
    have hrun := hover pruned hstart
    rwa [foldOver, ← hinside] at hrun
  refine ⟨hover place rfl, fun element location hmissing => ?_, hfold, fun hroot => ?_⟩
  · -- it would be an error of the fold that leaves such elements out
    have herror := (hover place rfl).result.trans hmissing
    rcases error_fold herror with ⟨fault, hlimit⟩ | ⟨hreject, _⟩ | ⟨_, key, element', _, hduplicate⟩
    · exact absurd hlimit (by simp)
    · exact absurd hreject (by simp [skipping])
    · exact absurd hduplicate (by simp)
  · exact hfold (place.prune choose) (place.start?_prune choose) (inside_prune choose hroot)

end Xml.Place

namespace Sample

/-- A type without a name may as well not be there, with the element in it: only the other element
leaves a context. -/
theorem fold_agree_prune_of_schema :
    let named := element "element" 4 [("name", "b")] .empty .empty
    let place := schema
      (element "complexType" 2 [] (element "element" 3 [("name", "a")] .empty .empty) named)
    let run := place.fold .standard (options .reject .skip) [] .empty
    let run' := (schema named).fold .standard (options .reject .reject) [] .empty
    run.Agree run' ∧ run'.result = .ok () ∧ run.context = .nested "b" .empty .empty ∧
      run'.context = .nested "b" .empty .empty := by
  intro named place run run'
  obtain ⟨_, _, hpruned, _⟩ :=
    place.fold_agree_prune StandardRule.ofKind? (options .reject .skip) [] .empty
  have hagree : run.Agree run' := hpruned (schema named) rfl (by decide)
  have hcontext : run'.context = .nested "b" .empty .empty := rfl
  exact ⟨hagree, rfl, hagree.context.trans hcontext, hcontext⟩

end Sample

end SchemaFold
