import SchemaFold.Proofs.Plan.Congruence
import SchemaFold.Proofs.Plan.Silent
/-!
The writes of a fold under built-in rules, read off from the tree alone.

A plan is made place by place. But all that a built-in rule wants to know of the place of an element
is whether it is in a declaration, so what a fold writes, in which order, and which error ends it
depend on the names, attributes and texts of the tree, and not on where anything stands.

* `isDeclaration`: elements and attributes, in which types need no name;
* `StandardRule.descent?_congr`, `StandardRule.descentIn?`: what a built-in rule sees of an element;
* `Plan.ofElement`, `Xml.Content.writes`, `Xml.Place.writes`: the plan of a tree, without events;
* `Plan.IsCongruence.writes_element`, `Plan.IsCongruence.writes_place`: two trees with the same
  start tags, whose insides have writes that are related;
* `Xml.Content.silent_plan`: it is the plan of a fold, but for the events;
* `Xml.Place.fold_agree_writes`: so a fold carries it out.
-/

namespace SchemaFold

open Text (Position)
open Xml (Attribute Content Document Place StartTag)

/-! ### Declarations -/

/-- The name of an element or attribute declaration of XML Schema. -/
def isDeclaration (name : Option ExpandedName) : Bool :=
  name.any (fun n => n.isXsd "element" || n.isXsd "attribute")

theorem uri_of_standardOf? {choose : ElementKind → Option StandardRule} {name : ExpandedName}
    {standard : StandardRule} (h : standardOf? choose name = some standard) :
    name.uri = some xsdNamespace := by
  rw [standardOf?] at h
  split at h
  · assumption
  · exact absurd h (by simp)

namespace StandardRule

variable {place : Place} {start : StartTag}

theorem isInDeclaration_eq (hstart : place.start? = some start)
    (huri : start.name.uri = some xsdNamespace) :
    isInDeclaration place = isDeclaration (place.parent?.bind Place.name?) := by
  have hname : place.name? = some start.name := by rw [Place.name?, hstart]; rfl
  rw [isInDeclaration, isDeclaration, hname]
  rcases place.parent?.bind Place.name? with _ | parent
  · rfl
  · show ((parent.localName == "element" || parent.localName == "attribute") &&
      parent.uri == start.name.uri) = _
    rw [huri, Option.any_some, ExpandedName.isXsd, ExpandedName.isXsd]
    cases parent.uri == some xsdNamespace
    · simp
    · simp

/-! ### What a built-in rule sees -/

theorem identifier?_eq_none {first second : String} :
    identifier? place [first, second] = none ↔
      Text.nonBlank? (place.attribute? first) = none ∧
        Text.nonBlank? (place.attribute? second) = none := by
  rw [identifier?]
  simp

/-- What a built-in rule makes of an element depends on its name, on its attributes, on whether it
is in a declaration, and for documentation on its first text. -/
theorem descent?_congr_of_seen (standard : StandardRule) {place other : Place}
    (hname : place.name? = other.name?)
    (hattribute : ∀ name, place.attribute? name = other.attribute? name)
    (hdeclared : isInDeclaration place = isInDeclaration other)
    (htext : standard = .documentation →
      place.inside.firstText? = other.inside.firstText?) :
    standard.descent? place = standard.descent? other := by
  have hlocal : place.localName = other.localName := by
    rw [Place.localName, Place.localName, hname]
  have hidentifier : ∀ order, identifier? place order = identifier? other order := by
    intro order
    simp only [identifier?, hattribute]
  cases standard with
  | nameThenRef => rw [descent?, descent?, hidentifier]
  | refThenName => rw [descent?, descent?, hidentifier]
  | typeDefinition => rw [descent?, descent?, hidentifier, hidentifier, hdeclared]
  | extension => rw [descent?, descent?, derivation, derivation, hattribute]
  | restriction => rw [descent?, descent?, derivation, derivation, hattribute]
  | documentation => rw [descent?, descent?, htext rfl]
  | enumeration => rw [descent?, descent?, hattribute]
  | facet => rw [descent?, descent?, hattribute, hlocal]
  | simpleContent => rfl
  | complexContent => rfl

/-- What a built-in rule makes of an element depends on its start tag, its first text and the name
of its parent. -/
theorem descent?_congr (standard : StandardRule) (place other : Place)
    (hstart : place.start? = other.start?)
    (hparent : place.parent?.bind Place.name? = other.parent?.bind Place.name?)
    (htext : place.inside.firstText? = other.inside.firstText?) :
    standard.descent? place = standard.descent? other := by
  have hname : place.name? = other.name? := by rw [Place.name?, Place.name?, hstart]
  refine standard.descent?_congr_of_seen hname (fun name => ?_) ?_ (fun _ => htext)
  · rw [Place.attribute?, Place.attribute?, hstart]
  · rw [isInDeclaration, isInDeclaration, hparent, hname]

/-- A place that is a declaration, or one that is not. -/
def standIn (declared : Bool) : Place :=
  let root : StartTag := ⟨⟨some xsdNamespace, "element"⟩, [], .start⟩
  let document : Document := ⟨[], root, .empty, []⟩
  if declared then document.rootPlace else .top document

/-- What a built-in rule makes of an element, if it is known whether this is in a declaration. -/
def descentIn? (standard : StandardRule) (declared : Bool) (start : StartTag) (inside : Content) :
    Option Descent :=
  standard.descent? (.child (standIn declared) 0 (.element start inside))

theorem isDeclaration_standIn (declared : Bool) :
    isDeclaration (standIn declared).name? = declared := by
  cases declared <;> rfl

/-- A rule sees no more of the parent of an element. -/
theorem descent?_eq_descentIn? {choose : ElementKind → Option StandardRule}
    {standard : StandardRule} (hstandard : standardOf? choose start.name = some standard)
    (parent : Place) (number : Nat) (inside : Content) :
    standard.descent? (.child parent number (.element start inside)) =
      standard.descentIn? (isDeclaration parent.name?) start inside := by
  have huri := uri_of_standardOf? hstandard
  refine standard.descent?_congr_of_seen rfl (fun _ => rfl) ?_ (fun _ => rfl)
  rw [isInDeclaration_eq rfl huri, isInDeclaration_eq rfl huri]
  exact (isDeclaration_standIn _).symm

/-- Of what is inside an element a rule sees the first text. -/
theorem descentIn?_congr (standard : StandardRule) (declared : Bool) (start : StartTag)
    {inside inside' : Content} (htext : inside.firstText? = inside'.firstText?) :
    standard.descentIn? declared start inside = standard.descentIn? declared start inside' :=
  standard.descent?_congr _ _ rfl rfl htext

end StandardRule

/-! ### Identifiers -/

/-- A name or a reference that is not blank. -/
def Xml.StartTag.isIdentified (start : StartTag) : Bool :=
  (Text.nonBlank? (start.attribute? "name")).isSome ||
    (Text.nonBlank? (start.attribute? "ref")).isSome

namespace StandardRule

variable {place : Place} {start : StartTag}

theorem identifier?_eq_none_iff (hstart : place.start? = some start) :
    identifier? place nameAndRef = none ↔ start.isIdentified = false := by
  have hattribute : ∀ name, place.attribute? name = start.attribute? name := by
    intro name
    rw [Place.attribute?, hstart]
    rfl
  rw [nameAndRef, identifier?_eq_none, hattribute, hattribute, StartTag.isIdentified]
  simp

/-- The attributes that a rule looks at for an identifier, in order. -/
def order : StandardRule → List String
  | .refThenName => ["ref", "name"]
  | _ => nameAndRef

/-- An element goes into a context under the first identifier that its rule finds, if the rule looks
for one, wherever the element stands. -/
theorem descentIn?_eq_nested {standard : StandardRule} (hrule : standard.identifies = true)
    {key : String}
    (hkey : standard.order.findSome? (fun name => Text.nonBlank? (start.attribute? name)) =
      some key)
    (declared : Bool) (inside : Content) :
    standard.descentIn? declared start inside = some (.nested key) := by
  have hfound : identifier? (.child (standIn declared) 0 (.element start inside)) standard.order =
      some key := hkey
  cases standard with
  | nameThenRef => exact congrArg (Option.map Descent.nested) hfound
  | refThenName => exact congrArg (Option.map Descent.nested) hfound
  | typeDefinition =>
    have hnamed : identifier? (.child (standIn declared) 0 (.element start inside)) nameAndRef =
        some key := hfound
    rw [descentIn?, descent?, hnamed]
    exact congrArg (Option.map Descent.nested) hnamed
  | _ => exact absurd hrule (by decide)

/-- An element with an identifier has one in whatever order a rule looks for it. -/
theorem exists_findSome?_of_isIdentified (h : start.isIdentified = true)
    (standard : StandardRule) :
    ∃ key, standard.order.findSome? (fun name => Text.nonBlank? (start.attribute? name)) =
      some key := by
  rw [← Option.isSome_iff_exists]
  rw [StartTag.isIdentified, Bool.or_eq_true] at h
  cases standard <;> simpa [order, nameAndRef, or_comm] using h

/-- An element with an identifier gets a context under it, if its rule asks for one. -/
theorem descentIn?_of_isIdentified {standard : StandardRule} (hrule : standard.identifies = true)
    (h : start.isIdentified = true) :
    ∃ key, ∀ declared inside, standard.descentIn? declared start inside = some (.nested key) := by
  obtain ⟨key, hkey⟩ := exists_findSome?_of_isIdentified h standard
  exact ⟨key, descentIn?_eq_nested hrule hkey⟩

/-- A type without an identifier in a declaration goes into the context at hand. -/
theorem descentIn?_typeDefinition (huri : start.name.uri = some xsdNamespace)
    (h : start.isIdentified = false) (inside : Content) :
    typeDefinition.descentIn? true start inside = some .current := by
  have hdeclared : isInDeclaration (.child (standIn true) 0 (.element start inside)) = true :=
    (isInDeclaration_eq rfl huri).trans (isDeclaration_standIn true)
  rw [descentIn?, descent?, (identifier?_eq_none_iff rfl).mpr h, hdeclared]
  rfl

end StandardRule

/-! ### The writes of a tree -/

/-- The site of an element with a start tag. -/
def Xml.StartTag.site (start : StartTag) : Site := ⟨start.name.localName, start.position⟩

namespace Plan

variable {choose : ElementKind → Option StandardRule}

@[simp] theorem append_done (p : Plan) : p ++ .done = p := by
  induction p with
  | done => rfl
  | fail e => rfl
  | note event rest ih => exact congrArg (note event) ih
  | copy key text rest ih => exact congrArg (copy key text) ih
  | scalar site key text rest ih => exact congrArg (scalar site key text) ih
  | nested site key inner rest _ ih => exact congrArg (nested site key inner) ih

theorem append_assoc (p q r : Plan) : p ++ q ++ r = p ++ (q ++ r) := by
  induction p with
  | done => rfl
  | fail e => rfl
  | note event rest ih => exact congrArg (note event) ih
  | copy key text rest ih => exact congrArg (copy key text) ih
  | scalar site key text rest ih => exact congrArg (scalar site key text) ih
  | nested site key inner rest _ ih => exact congrArg (nested site key inner) ih

/-- What a table of built-in rules makes of an element, without events. -/
def ofElement (choose : ElementKind → Option StandardRule) (missing : MissingIdentifier)
    (declared : Bool) (start : StartTag) (inside : Content) (fill : List String → Plan) : Plan :=
  match standardOf? choose start.name with
  | none => fill []
  | some standard =>
    match standard.descentIn? declared start inside with
    | some descent => descend start.site descent (fill standard.ignored) standard.closing
    | none => (unnamed missing start.site).silent

theorem ofElement_of_ruleless {start : StartTag} (h : standardOf? choose start.name = none)
    (missing : MissingIdentifier) (declared : Bool) (inside : Content)
    (fill : List String → Plan) :
    ofElement choose missing declared start inside fill = fill [] := by
  rw [ofElement, h]

theorem ofElement_of_descent {start : StartTag} {standard : StandardRule} {descent : Descent}
    {declared : Bool} {inside : Content} (h : standardOf? choose start.name = some standard)
    (hdescent : standard.descentIn? declared start inside = some descent)
    (missing : MissingIdentifier) (fill : List String → Plan) :
    ofElement choose missing declared start inside fill =
      descend start.site descent (fill standard.ignored) standard.closing := by
  rw [ofElement, h]
  show (match standard.descentIn? declared start inside with
    | some descent => _
    | none => _) = _
  rw [hdescent]

theorem ofElement_of_unnamed {start : StartTag} {standard : StandardRule} {declared : Bool}
    {inside : Content} (h : standardOf? choose start.name = some standard)
    (hdescent : standard.descentIn? declared start inside = none) (missing : MissingIdentifier)
    (fill : List String → Plan) :
    ofElement choose missing declared start inside fill = (unnamed missing start.site).silent := by
  rw [ofElement, h]
  show (match standard.descentIn? declared start inside with
    | some descent => _
    | none => _) = _
  rw [hdescent]

/-- An element of which the rules make the same in two places: what is made of it goes along with
what is made of its inside. -/
theorem IsCongruence.ofElement {R : Plan → Plan → Prop} (hR : IsCongruence R)
    {declared declared' : Bool} {start : StartTag} {inside inside' : Content}
    (hdescent : ∀ standard, standardOf? choose start.name = some standard →
      standard.descentIn? declared start inside = standard.descentIn? declared' start inside')
    (missing : MissingIdentifier) {fill fill' : List String → Plan}
    (hfill : ∀ ignored, R (fill ignored) (fill' ignored)) :
    R (ofElement choose missing declared start inside fill)
      (Plan.ofElement choose missing declared' start inside' fill') := by
  rcases hstandard : standardOf? choose start.name with _ | standard
  · rw [ofElement_of_ruleless hstandard, ofElement_of_ruleless hstandard]
    exact hfill []
  · have hsame := hdescent standard hstandard
    rcases hfound : standard.descentIn? declared start inside with _ | descent
    · rw [ofElement_of_unnamed hstandard hfound, ofElement_of_unnamed hstandard (hsame ▸ hfound)]
      exact hR.refl _
    · rw [ofElement_of_descent hstandard hfound, ofElement_of_descent hstandard (hsame ▸ hfound)]
      exact hR.descend (hfill standard.ignored) start.site descent standard.closing

theorem silent_dispatch (choose : ElementKind → Option StandardRule) (options : Options)
    (parent : Place) (number : Nat) (start : StartTag) (inside : Content)
    (fill : List String → Plan) :
    (dispatch (.ofStandard choose) options (.child parent number (.element start inside))
      start.name fill).silent =
      ofElement choose options.missingIdentifier (isDeclaration parent.name?) start inside
        (fun ignored => (fill ignored).silent) := by
  rw [dispatch_ofStandard]
  rcases hstandard : standardOf? choose start.name with _ | standard
  · rw [ofElement_of_ruleless hstandard]
    rfl
  · show (ofStandard standard _ _ fill).silent = _
    rw [ofStandard, StandardRule.descent?_eq_descentIn? hstandard]
    rcases hdescent : standard.descentIn? (isDeclaration parent.name?) start inside with _ | descent
    · rw [ofElement_of_unnamed hstandard hdescent]
      rfl
    · rw [ofElement_of_descent hstandard hdescent]
      exact silent_descend _ descent _ standard.closing

end Plan

/-- The writes for the elements of a content, which are at `depth` and in a declaration or not. -/
def Xml.Content.writes (choose : ElementKind → Option StandardRule) (options : Options) :
    (declared : Bool) → (depth : Nat) → Content → Plan
  | _, _, .empty => .done
  | declared, depth, .element start inside after =>
    Plan.ofElement choose options.missingIdentifier declared start inside (fun ignored =>
      Plan.enter options ignored start.attributes depth
        (writes choose options (isDeclaration (some start.name)) (depth + 1) inside)) ++
      writes choose options declared depth after
  | declared, depth, .text _ _ after => writes choose options declared depth after
  | declared, depth, .comment _ _ after => writes choose options declared depth after
  | declared, depth, .instruction _ after => writes choose options declared depth after

/-- The writes for the node at a place. -/
def Xml.Place.writes (choose : ElementKind → Option StandardRule) (options : Options)
    (ignored : List String) (place : Place) : Plan :=
  Plan.enter options ignored place.attributes 1
    (place.inside.writes choose options (isDeclaration place.name?) 2)

namespace Plan.IsCongruence

variable {R : Plan → Plan → Prop} {choose : ElementKind → Option StandardRule} {options : Options}

/-- The writes for an element go along with those for its inside, if its first text is the same. -/
theorem writes_element (hR : IsCongruence R) {declared : Bool} {depth : Nat} {start : StartTag}
    {inside inside' after after' : Content} (htext : inside.firstText? = inside'.firstText?)
    (hinside : R (inside.writes choose options (isDeclaration (some start.name)) (depth + 1))
      (inside'.writes choose options (isDeclaration (some start.name)) (depth + 1)))
    (hafter : R (after.writes choose options declared depth)
      (after'.writes choose options declared depth)) :
    R ((Content.element start inside after).writes choose options declared depth)
      ((Content.element start inside' after').writes choose options declared depth) := by
  refine hR.append (hR.ofElement ?_ options.missingIdentifier fun ignored => ?_) hafter
  · -- the start tag and the first text are all that a rule sees
    intro standard _
    exact standard.descentIn?_congr declared start htext
  · exact hR.enter hinside options ignored start.attributes depth

/-- The writes for a node go along with those for its inside. -/
theorem writes_place (hR : IsCongruence R) {place other : Place}
    (hstart : other.start? = place.start?)
    (hinside : R (place.inside.writes choose options (isDeclaration place.name?) 2)
      (other.inside.writes choose options (isDeclaration place.name?) 2))
    (ignored : List String) :
    R (place.writes choose options ignored) (other.writes choose options ignored) := by
  have hname : other.name? = place.name? := by rw [Place.name?, Place.name?, hstart]
  have hattributes : other.attributes = place.attributes := by
    rw [Place.attributes, Place.attributes, hstart]
  rw [Place.writes, Place.writes, hname, hattributes]
  exact hR.enter hinside options ignored place.attributes 1

end Plan.IsCongruence

/-- **The plan of a content is its writes**, but for the events. -/
theorem Xml.Content.silent_plan (choose : ElementKind → Option StandardRule) (options : Options)
    (content : Content) (parent : Place) (depth number : Nat) :
    (content.plan (.ofStandard choose) options parent depth number).silent =
      content.writes choose options (isDeclaration parent.name?) depth := by
  induction content generalizing parent depth number with
  | empty => rfl
  | element start inside after ihInside ihAfter =>
    rw [plan, writes, Plan.silent_append, ihAfter, Plan.silent_dispatch]
    congr 1
    -- the inside has the element for its parent
    have hfill : ∀ ignored, (Plan.enter options ignored start.attributes depth
        (inside.plan (.ofStandard choose) options (.child parent number (.element start inside))
          (depth + 1) 0)).silent =
        Plan.enter options ignored start.attributes depth
          (inside.writes choose options (isDeclaration (some start.name)) (depth + 1)) := by
      intro ignored
      rw [Plan.silent_enter, ihInside]
      rfl
    simp only [hfill]
  | text value position after ih => exact ih parent depth (number + 1)
  | comment value position after ih => exact ih parent depth (number + 1)
  | instruction position after ih => exact ih parent depth (number + 1)

namespace Xml.Place

theorem silent_plan (choose : ElementKind → Option StandardRule) (options : Options)
    (ignored : List String) (place : Place) :
    (place.plan (.ofStandard choose) options ignored).silent =
      place.writes choose options ignored := by
  rw [plan, writes, Plan.silent_enter, Content.silent_plan]

/-- **A fold carries out the writes of its tree**, whatever it reports. -/
theorem fold_agree_writes (choose : ElementKind → Option StandardRule) (options : Options)
    (ignored : List String) (place : Place) (c : Context) :
    (place.fold (.ofStandard choose) options ignored c).Agree
      ((place.writes choose options ignored).exec options.replaces c) := by
  rw [fold_eq_exec (RuleTable.isBlind_ofStandard choose), ← silent_plan]
  have hsilent := Plan.exec_silent options.replaces
    (place.plan (.ofStandard choose) options ignored) c
  exact ⟨hsilent.context.symm, hsilent.result.symm⟩

end Xml.Place

end SchemaFold
