import SchemaFold.Proofs.Elements
import SchemaFold.Proofs.Plan.Relaxes
import SchemaFold.Proofs.Sample
/-!
Elements that leave no trace may as well be replaced by their element children.

An element without attributes goes into the context at hand, with nothing of its own, if it has no
rule, or if it is a type without an identifier in a declaration. Its children may then stand in its
place: one level higher, and inside another parent. A bound on the nesting is the only thing that
can tell the difference, and it only gets easier to keep.

* `RuleTable.without`: a table from which rules have been removed;
* `LeavesNoTrace`, `Xml.Content.Flattens`: such an element, and a content in which one of them is
  replaced;
* `Xml.Content.relaxes_writes`: the same elements one level higher;
* `Xml.Content.Flattens.relaxes_writes`: a content and the flattened one;
* `Xml.Place.fold_agree_of_flattens`: the statement for folds.
-/

namespace SchemaFold

open Xml (Attribute Content Node Place StartTag)

/-! ### Tables with fewer rules -/

/-- The table without the rules for some kinds. -/
def RuleTable.without (table : RuleTable) (removed : List ElementKind) : RuleTable :=
  removed.foldl remove table

/-- The built-in rules but for those of some kinds. -/
def StandardRule.ofKindWithout? (removed : List ElementKind) (kind : ElementKind) :
    Option StandardRule :=
  if kind ∈ removed then none else ofKind? kind

theorem RuleTable.rule?_without (table : RuleTable) (removed : List ElementKind)
    (kind : ElementKind) :
    (table.without removed).rule? kind = if kind ∈ removed then none else table.rule? kind := by
  induction removed generalizing table with
  | nil => rfl
  | cons first rest ih =>
    show ((table.remove first).without rest).rule? kind = _
    rw [ih, remove]
    by_cases hfirst : kind = first
    · simp [hfirst]
    · simp [hfirst]

theorem RuleTable.standard_without (removed : List ElementKind) :
    standard.without removed = ofStandard (StandardRule.ofKindWithout? removed) := by
  have hrule : (standard.without removed).rule? =
      (ofStandard (StandardRule.ofKindWithout? removed)).rule? := by
    funext kind
    rw [rule?_without]
    show _ = (StandardRule.ofKindWithout? removed kind).map StandardRule.rule
    rw [StandardRule.ofKindWithout?]
    split
    · rfl
    · rfl
  exact congrArg RuleTable.mk hrule

/-! ### Elements that leave no trace -/

/-- The name of a type definition of XML Schema. -/
def isTypeName (name : ExpandedName) : Bool := name.isXsd "complexType" || name.isXsd "simpleType"

/-- A type definition with neither a name nor a reference that is not blank. -/
def isAnonymousType (start : StartTag) : Bool := isTypeName start.name && !start.isIdentified

/-- An element without attributes that has no rule and is no declaration, or that is a type in a
declaration. -/
def LeavesNoTrace (table : RuleTable) (parent : Option ExpandedName) (start : StartTag) : Prop :=
  start.attributes = [] ∧
    ((table.ruleOf? start.name = none ∧ isDeclaration (some start.name) = false) ∨
      (isTypeName start.name = true ∧ isDeclaration parent = true))

/-- In a content of an element named `parent`, or further inside, one element that leaves no trace
is replaced by its element children; the nodes before and after it stay as they are. None of the
children is a type without an identifier: in another parent such a type may be something else. -/
inductive Xml.Content.Flattens (table : RuleTable) : Option ExpandedName → Content → Content → Prop
  | here {parent : Option ExpandedName} {start : StartTag} {inside : Content} (after : Content)
      (htrace : LeavesNoTrace table parent start)
      (hchildren : ∀ child ∈ inside.elements, isAnonymousType child.1 = false) :
      Flattens table parent (.element start inside after) (inside.elementsThen after)
  | inside {parent : Option ExpandedName} (start : StartTag) {inside inside' : Content}
      (after : Content) (h : Flattens table (some start.name) inside inside') :
      Flattens table parent (.element start inside after) (.element start inside' after)
  | after {parent : Option ExpandedName} (node : Node) {after after' : Content}
      (h : Flattens table parent after after') :
      Flattens table parent (.cons node after) (.cons node after')

theorem Xml.Content.Flattens.firstText?_eq {table : RuleTable} {parent : Option ExpandedName}
    {content content' : Content} (h : content.Flattens table parent content') :
    content'.firstText? = content.firstText? := by
  induction h with
  | here after _ _ => exact firstText?_elementsThen _ after
  | inside start after _ _ => rfl
  | after node _ ih =>
    cases node with
    | element start inside => exact ih
    | text value position => rfl
    | comment value position => exact ih
    | instruction position => exact ih

/-! ### Types and their parents -/

/-- Complex and simple types have the rule for type definitions, and no other kind has it. -/
def DefinesTypes (choose : ElementKind → Option StandardRule) : Prop :=
  ∀ kind, choose kind = some .typeDefinition ↔ kind = .complexType ∨ kind = .simpleType

theorem definesTypes_ofKindWithout? {removed : List ElementKind}
    (hcomplex : .complexType ∉ removed) (hsimple : .simpleType ∉ removed) :
    DefinesTypes (StandardRule.ofKindWithout? removed) := by
  intro kind
  rw [StandardRule.ofKindWithout?]
  constructor
  · intro h
    split at h
    · exact absurd h (by simp)
    · revert h
      cases kind <;> decide
  · rintro (rfl | rfl)
    · rw [if_neg hcomplex]
      rfl
    · rw [if_neg hsimple]
      rfl

theorem ElementKind.localName_of_ofLocalName? {name : String} {kind : ElementKind}
    (h : ofLocalName? name = some kind) : kind.localName = name := by
  have hfound := List.find?_some h
  exact eq_of_beq hfound

section
variable {choose : ElementKind → Option StandardRule} {name : ExpandedName} {start : StartTag}
  {inside : Content}

theorem standardOf?_eq_typeDefinition_iff (htypes : DefinesTypes choose) :
    standardOf? choose name = some .typeDefinition ↔ isTypeName name = true := by
  rw [standardOf?, isTypeName, ExpandedName.isXsd, ExpandedName.isXsd]
  by_cases huri : name.uri = some xsdNamespace
  · rw [if_pos huri, huri]
    constructor
    · intro h
      obtain ⟨kind, hkind, hchosen⟩ := Option.bind_eq_some_iff.mp h
      have hlocal := ElementKind.localName_of_ofLocalName? hkind
      rcases (htypes kind).mp hchosen with rfl | rfl
      · simp [← hlocal, ElementKind.localName]
      · simp [← hlocal, ElementKind.localName]
    · intro h
      have hlocal : name.localName = "complexType" ∨ name.localName = "simpleType" := by
        simpa using h
      rcases hlocal with hlocal | hlocal
      · rw [hlocal]
        exact (htypes .complexType).mpr (Or.inl rfl)
      · rw [hlocal]
        exact (htypes .simpleType).mpr (Or.inr rfl)
  · rw [if_neg huri]
    simp [huri]

namespace StandardRule

/-- Only the rule for type definitions asks whether an element is in a declaration, and only if the
element has no identifier. -/
theorem descentIn?_of_not_anonymous (htypes : DefinesTypes choose) {standard : StandardRule}
    (hstandard : standardOf? choose start.name = some standard)
    (hnamed : isAnonymousType start = false) (declared declared' : Bool) :
    standard.descentIn? declared start inside = standard.descentIn? declared' start inside := by
  by_cases htype : standard = .typeDefinition
  · subst htype
    have hname : isTypeName start.name = true :=
      (standardOf?_eq_typeDefinition_iff htypes).mp hstandard
    have hidentified : start.isIdentified = true := by
      rw [isAnonymousType, hname] at hnamed
      simpa using hnamed
    have hnested : ∃ key, ∀ declared inside, typeDefinition.descentIn? declared start inside =
        some (.nested key) := descentIn?_of_isIdentified rfl hidentified
    obtain ⟨key, hkey⟩ := hnested
    rw [hkey, hkey]
  · cases standard with
    | typeDefinition => exact absurd rfl htype
    | _ => rfl

end StandardRule

end

/-! ### The writes of a flattened tree -/

namespace Xml.Content

variable {choose : ElementKind → Option StandardRule}

/-- **Elements may move up**, also out of their parent if no type among them needs it. -/
theorem relaxes_writes (htypes : DefinesTypes choose) (options : Options) (content : Content)
    {declared declared' : Bool} {depth depth' : Nat} (hdepth : depth' ≤ depth)
    (hparent : declared = declared' ∨ ∀ child ∈ content.elements, isAnonymousType child.1 = false) :
    (content.writes choose options declared depth).Relaxes Error.IsLimit
      (content.writes choose options declared' depth') := by
  induction content generalizing declared declared' depth depth' with
  | empty => exact .done
  | element start inside after ihInside ihAfter =>
    have hafter := ihAfter hdepth (hparent.imp_right fun h child hchild =>
      h child (List.mem_cons_of_mem _ hchild))
    refine Plan.Relaxes.append
      ((Plan.Relaxes.isCongruence _).ofElement ?_ _ fun ignored => ?_) hafter
    · intro standard hstandard
      rcases hparent with rfl | hnamed
      · rfl
      · exact standard.descentIn?_of_not_anonymous htypes hstandard
          (hnamed (start, inside) (List.mem_cons_self)) declared declared'
    · -- further inside the parents are the same
      exact .enter_of_kept (Nat.le_trans hdepth) (ihInside (Nat.succ_le_succ hdepth) (Or.inl rfl))
        ignored _
  | text value position after ih => exact ih hdepth hparent
  | comment value position after ih => exact ih hdepth hparent
  | instruction position after ih => exact ih hdepth hparent

/-- An element that leaves no trace only enters its inside. -/
theorem ofElement_of_leavesNoTrace (htypes : DefinesTypes choose) {parent : Option ExpandedName}
    {start : StartTag} (h : LeavesNoTrace (.ofStandard choose) parent start)
    (missing : MissingIdentifier) (inside : Content) (fill : List String → Plan) :
    ∃ ignored, Plan.ofElement choose missing (isDeclaration parent) start inside fill =
      fill ignored := by
  obtain ⟨hattributes, ⟨hrule, _⟩ | ⟨htype, hparent⟩⟩ := h
  · rw [RuleTable.ruleOf?_ofStandard, Option.map_eq_none_iff] at hrule
    exact ⟨[], Plan.ofElement_of_ruleless hrule missing _ inside fill⟩
  · have hstandard : standardOf? choose start.name = some .typeDefinition :=
      (standardOf?_eq_typeDefinition_iff htypes).mpr htype
    have hunidentified : start.isIdentified = false := by
      rw [StartTag.isIdentified, StartTag.attribute?, StartTag.attribute?, hattributes]
      rfl
    have hdescent := StandardRule.descentIn?_typeDefinition (uri_of_standardOf? hstandard)
      hunidentified inside
    refine ⟨StandardRule.nameAndRef, ?_⟩
    rw [hparent, Plan.ofElement_of_descent hstandard hdescent]
    exact Plan.append_done _

/-- **The writes of a content and of the flattened one** differ at most where a bound on the nesting
is not kept. -/
theorem Flattens.relaxes_writes (htypes : DefinesTypes choose) (options : Options)
    {parent : Option ExpandedName} {content content' : Content}
    (h : content.Flattens (.ofStandard choose) parent content') (depth : Nat) :
    (content.writes choose options (isDeclaration parent) depth).Relaxes Error.IsLimit
      (content'.writes choose options (isDeclaration parent) depth) := by
  induction h generalizing depth with
  | @here parent start inside after htrace hchildren =>
    rw [writes_elementsThen, writes]
    refine Plan.Relaxes.append ?_ (.refl _)
    obtain ⟨ignored, hfill⟩ := ofElement_of_leavesNoTrace htypes htrace options.missingIdentifier
      inside (fun ignored => Plan.enter options ignored start.attributes depth
        (inside.writes choose options (isDeclaration (some start.name)) (depth + 1)))
    rw [hfill, Plan.enter]
    -- the bound is checked once less, and nothing is copied
    rcases options.limits.checkDepth depth with fault | _
    · exact .goOn ⟨fault, rfl⟩ _
    · rw [htrace.1]
      exact inside.relaxes_writes htypes options (Nat.le_succ depth) (Or.inr hchildren)
  | inside start after hinside ih =>
    exact (Plan.Relaxes.isCongruence _).writes_element hinside.firstText?_eq.symm (ih (depth + 1))
      (.refl _)
  | after node _ ih =>
    cases node with
    | element start inside => exact (Plan.Relaxes.refl _).append (ih depth)
    | text value position => exact ih depth
    | comment value position => exact ih depth
    | instruction position => exact ih depth

end Xml.Content

/-! ### Folds of flattened trees -/

namespace Xml.Place

/-- **Elements that leave no trace may be replaced by their element children.** Under the built-in
rules, from which any but those for types may have been removed, a fold that keeps the bound on the
nesting ends like the fold of the flattened tree, in the same error if it is one, and leaves the
same context with its keys in the same order. -/
theorem fold_agree_of_flattens (removed : List ElementKind) (hcomplex : .complexType ∉ removed)
    (hsimple : .simpleType ∉ removed) (options : Options) (ignored : List String)
    {place flat : Place} (hstart : flat.start? = place.start?)
    (hinside : place.inside.Flattens (RuleTable.standard.without removed) place.name? flat.inside)
    (c : Context)
    (hlimit : ∀ fault, (place.fold (RuleTable.standard.without removed) options ignored c).result ≠
      .error (.limitExceeded fault)) :
    (flat.fold (RuleTable.standard.without removed) options ignored c).Agree
      (place.fold (RuleTable.standard.without removed) options ignored c) := by
  have htypes := definesTypes_ofKindWithout? hcomplex hsimple
  rw [RuleTable.standard_without] at hinside hlimit ⊢
  have hrelaxes : (place.writes (StandardRule.ofKindWithout? removed) options ignored).Relaxes
      Error.IsLimit (flat.writes (StandardRule.ofKindWithout? removed) options ignored) :=
    (Plan.Relaxes.isCongruence _).writes_place hstart (hinside.relaxes_writes htypes options 2)
      ignored
  have hplace := place.fold_agree_writes (StandardRule.ofKindWithout? removed) options ignored c
  have hflat := flat.fold_agree_writes (StandardRule.ofKindWithout? removed) options ignored c
  have hsame : (flat.writes (StandardRule.ofKindWithout? removed) options ignored).exec
      options.replaces c =
      (place.writes (StandardRule.ofKindWithout? removed) options ignored).exec
        options.replaces c := by
    refine Plan.exec_eq_of_relaxes hrelaxes ?_
    rintro e ⟨fault, rfl⟩ herror
    exact hlimit fault (hplace.result.trans herror)
  rw [hsame] at hflat
  exact ⟨hflat.context.trans hplace.context.symm, hflat.result.trans hplace.result.symm⟩

end Xml.Place

namespace Sample

/-- A type without a name in an element, with a sequence inside: the type may be left out, the
sequence with its attribute may not. -/
theorem fold_agree_of_flattens_of_type :
    let table := RuleTable.standard.without [.documentation, .group]
    let rules := options .reject .reject
    let sequence := element "sequence" 4 [("minOccurs", "0")]
      (element "element" 5 [("name", "a")] .empty .empty) .empty
    let place := schema
      (element "element" 2 [("name", "X")] (element "complexType" 3 [] sequence .empty) .empty)
    let flat := schema (element "element" 2 [("name", "X")] sequence .empty)
    let context : Context :=
      .nested "X" (.scalar "minOccurs" "0" (.nested "a" .empty .empty)) .empty
    place.inside.Flattens table place.name? flat.inside ∧
      (place.fold table rules [] .empty).result = .ok () ∧
      (flat.fold table rules [] .empty).Agree (place.fold table rules [] .empty) ∧
      (place.fold table rules [] .empty).context = context ∧
      (flat.fold table rules [] .empty).context = context := by
  intro table rules sequence place flat context
  have htrace : LeavesNoTrace table (some ⟨some xsdNamespace, "element"⟩)
      ⟨⟨some xsdNamespace, "complexType"⟩, [], ⟨3, 1⟩⟩ :=
    ⟨rfl, Or.inr ⟨by decide, by decide⟩⟩
  have hchildren : ∀ child ∈ sequence.elements, isAnonymousType child.1 = false := by
    intro child hchild
    rw [List.mem_singleton.mp hchild]
    rfl
  have hinside : place.inside.Flattens table place.name? flat.inside :=
    .inside _ .empty (.here .empty htrace hchildren)
  have hok : (place.fold table rules [] .empty).result = .ok () := rfl
  have hlimit : ∀ fault, (place.fold table rules [] .empty).result ≠
      .error (.limitExceeded fault) := by
    intro fault
    rw [hok]
    simp
  have hstart : flat.start? = place.start? := rfl
  have hagree := Xml.Place.fold_agree_of_flattens [.documentation, .group] (by decide) (by decide)
    rules [] hstart hinside .empty hlimit
  have hcontext : (place.fold table rules [] .empty).context = context := rfl
  exact ⟨hinside, hok, hagree, hcontext, hagree.context.trans hcontext⟩

end Sample

end SchemaFold
