import SchemaFold.Proofs.Pruning
/-!
Which error ends a fold if later constructs replace earlier ones.

Then no key is a duplicate, and how a fold ends is known from its plan alone: with the first error
there. Under built-in rules this is the first element in document order that is too deep, or that
lacks an identifier and may not be left out.

* `Plan.error?`, `Plan.result_exec_true`: the first error of a plan, which is the error of its runs;
* `Plan.error?_dispatch`: the first error for an element;
* `Xml.Content.error?`, `Xml.Place.error?`: the first error for a tree;
* `Xml.Place.result_fold_of_lastWins`: the fold of the tree ends with it.
-/

namespace SchemaFold

open Xml (Attribute Content Place StartTag)

/-! ### Errors of plans -/

namespace Plan

/-- The first error of a plan. -/
def error? : Plan → Option Error
  | .done => none
  | .fail e => some e
  | .note _ rest => rest.error?
  | .copy _ _ rest => rest.error?
  | .scalar _ _ _ rest => rest.error?
  | .nested _ _ inner rest => inner.error?.or rest.error?

theorem error?_append (p q : Plan) : (p ++ q).error? = p.error?.or q.error? := by
  induction p with
  | done => rfl
  | fail e => rfl
  | note event rest ih => exact ih
  | copy key text rest ih => exact ih
  | scalar site key text rest ih => exact ih
  | nested site key inner rest _ ih =>
    rw [nested_append, error?, error?, ih, Option.or_assoc]

/-- **A run that may replace constructs ends with the first error of its plan**, whatever context it
is on. -/
theorem result_exec_true (p : Plan) (c : Context) :
    (p.exec true c).result = p.error?.elim (.ok ()) .error := by
  -- a write goes through and leaves the ending to what comes after it
  have hthen : ∀ {run : Run} {next : Context → Run} {ending : Except Error Unit},
      run.result = .ok () → (∀ c, (next c).result = ending) →
      (run.andThen next).result = ending := by
    intro run next ending hrun hnext
    rw [Run.andThen_of_ok hrun]
    exact hnext _
  induction p generalizing c with
  | done => rfl
  | fail e => rfl
  | note event rest ih => exact ih c
  | copy key text rest ih => exact ih _
  | scalar site key text rest ih =>
    exact hthen (Fold.writeScalar_result_eq_ok.mpr (Or.inl rfl)) ih
  | nested site key inner rest ihInner ih =>
    have hroom : true = true ∨ c.get? key = none := Or.inl rfl
    obtain ⟨events, hnest⟩ := Fold.nest_eq_under hroom site (inner.exec true)
    have hresult : (Fold.nest true site key (inner.exec true) c).result =
        inner.error?.elim (.ok ()) .error := by
      rw [hnest]
      exact ihInner .empty
    rw [exec, error?]
    rcases hinner : inner.error? with _ | e
    · rw [hinner] at hresult
      exact hthen hresult ih
    · rw [hinner] at hresult
      rw [Run.andThen_of_error hresult, hresult]
      rfl

/-! ### Errors for elements -/

theorem error?_ofScalars (site : Site) (entries : List (String × String)) :
    (ofScalars site entries).error? = none := by
  induction entries with
  | nil => rfl
  | cons entry rest ih => exact ih

theorem error?_ofAttributes (ignored : List String) (attributes : List Attribute) :
    (ofAttributes ignored attributes).error? = none := by
  induction attributes with
  | nil => rfl
  | cons a rest ih =>
    rw [ofAttributes]
    split
    · exact ih
    · exact ih

theorem error?_descend {descent : Descent} (h : descent.scope ≠ .skip) (site : Site)
    (inside : Plan) (closing : List (String × String)) :
    (descend site descent inside closing).error? = inside.error? := by
  rw [descend, error?_append, error?_ofScalars, Option.none_or]
  rcases hscope : descent.scope with _ | key | _
  · show (inside ++ ofScalars site closing).error? = _
    rw [error?_append, error?_ofScalars, Option.or_none]
  · show inside.error?.or (ofScalars site closing).error? = _
    rw [error?_ofScalars, Option.or_none]
  · exact absurd hscope h

end Plan

namespace Options

/-- The error of an element without an identifier. -/
def unnamedError? (options : Options) (start : StartTag) : Option Error :=
  match options.missingIdentifier with
  | .reject => some (.missingIdentifier start.name.localName start.position)
  | .skip => none

/-- The error of an element at a depth. -/
def depthError? (options : Options) (depth : Nat) : Option Error :=
  if options.limits.depth < depth then some (.limitExceeded (.depth depth options.limits.depth))
  else none

end Options

theorem Plan.error?_enter (options : Options) (ignored : List String)
    (attributes : List Attribute) (depth : Nat) (inside : Plan) :
    (enter options ignored attributes depth inside).error? =
      (options.depthError? depth).or inside.error? := by
  rw [enter, Limits.checkDepth, Options.depthError?]
  by_cases hover : options.limits.depth < depth
  · rw [if_pos hover, if_pos hover]
    rfl
  · rw [if_neg hover, if_neg hover]
    show (ofAttributes ignored attributes ++ inside).error? = _
    rw [error?_append, error?_ofAttributes]

/-- No built-in rule leaves out an element that it has an answer for. -/
theorem StandardRule.scope_ne_skip {standard : StandardRule} {place : Place} {descent : Descent}
    (h : standard.descent? place = some descent) : descent.scope ≠ .skip := by
  -- an additional text leaves the scope as it is
  have hcurrent : Descent.current.scope ≠ .skip := by decide
  have hnested : ∀ key, (Descent.nested key).scope ≠ .skip := by simp [Descent.nested]
  have hidentified : ∀ {key : Option String}, key.map Descent.nested = some descent →
      descent.scope ≠ .skip := by
    intro key hkey
    obtain ⟨_, _, rfl⟩ := Option.map_eq_some_iff.mp hkey
    exact hnested _
  have hderivation : ∀ key, (derivation place key).scope ≠ .skip := by
    intro key
    rw [derivation]
    split
    · exact hnested key
    · exact hnested key
  cases standard with
  | nameThenRef => exact hidentified h
  | refThenName => exact hidentified h
  | typeDefinition =>
    rw [descent?] at h
    split at h
    · cases h
      exact hcurrent
    · exact hidentified h
  | extension =>
    cases h
    exact hderivation propertiesKey
  | restriction =>
    cases h
    exact hderivation facetsKey
  | documentation =>
    rw [descent?] at h
    split at h
    · cases h
      exact hcurrent
    · cases h
      exact hcurrent
  | enumeration =>
    rw [descent?] at h
    split at h
    · cases h
      exact hnested _
    · cases h
      exact hcurrent
  | facet =>
    rw [descent?] at h
    split at h
    · cases h
      exact hcurrent
    · cases h
      exact hcurrent
  | simpleContent =>
    cases h
    exact hcurrent
  | complexContent =>
    cases h
    exact hcurrent

variable {choose : ElementKind → Option StandardRule}

/-- **The first error for an element** is that it lacks an identifier, or else the first of its
attributes and inside. -/
theorem Plan.error?_dispatch {options : Options} {parent : Place} {number : Nat} {start : StartTag}
    {inside : Content} {fill : List String → Plan} {found : Option Error}
    (hfill : ∀ ignored, (fill ignored).error? = found) :
    (dispatch (.ofStandard choose) options (.child parent number (.element start inside))
      start.name fill).error? =
      if lacksIdentifier choose parent.name? start then options.unnamedError? start else found := by
  rw [dispatch_ofStandard]
  rcases hstandard : standardOf? choose start.name with _ | standard
  · -- without a rule there is nothing that an identifier is needed for
    have hlacks : lacksIdentifier choose parent.name? start = false := by
      rw [lacksIdentifier, hstandard]
    rw [hlacks, if_neg Bool.false_ne_true]
    exact hfill []
  · have hiff : standard.descent? (.child parent number (.element start inside)) = none ↔
        lacksIdentifier choose parent.name? start = true :=
      StandardRule.descent?_eq_none_iff rfl hstandard
    show (ofStandard standard _ _ fill).error? = _
    rw [ofStandard]
    rcases hdescent : standard.descent? (.child parent number (.element start inside)) with
      _ | descent
    · have hlacks : lacksIdentifier choose parent.name? start = true := hiff.mp hdescent
      rw [hlacks, if_pos rfl, Options.unnamedError?]
      rcases options.missingIdentifier with _ | _
      · rfl
      · rfl
    · have hlacks : ¬ lacksIdentifier choose parent.name? start = true := by
        intro hlacks
        rw [hiff.mpr hlacks] at hdescent
        exact absurd hdescent (by simp)
      rw [if_neg hlacks, ← hfill standard.ignored]
      exact error?_descend (StandardRule.scope_ne_skip hdescent) _ _ _

/-! ### Errors for trees -/

/-- The first error for the elements of a content, which are at `depth` and have a parent of this
name: an element that lacks an identifier and may not be left out, or one that is too deep. What is
inside elements that are left out does not count. -/
def Xml.Content.error? (choose : ElementKind → Option StandardRule) (options : Options) :
    (parent : Option ExpandedName) → (depth : Nat) → Content → Option Error
  | _, _, .empty => none
  | parent, depth, .element start inside after =>
    (if lacksIdentifier choose parent start then options.unnamedError? start
      else (options.depthError? depth).or
        (error? choose options (some start.name) (depth + 1) inside)).or
      (error? choose options parent depth after)
  | parent, depth, .text _ _ after => error? choose options parent depth after
  | parent, depth, .comment _ _ after => error? choose options parent depth after
  | parent, depth, .instruction _ after => error? choose options parent depth after

/-- The first error for the node at a place. -/
def Xml.Place.error? (choose : ElementKind → Option StandardRule) (options : Options)
    (place : Place) : Option Error :=
  (options.depthError? 1).or (place.inside.error? choose options place.name? 2)

theorem Xml.Content.error?_plan (choose : ElementKind → Option StandardRule) (options : Options)
    (content : Content) (parent : Place) (depth number : Nat) :
    (content.plan (.ofStandard choose) options parent depth number).error? =
      content.error? choose options parent.name? depth := by
  induction content generalizing parent depth number with
  | empty => rfl
  | element start inside after ihInside ihAfter =>
    have hfill : ∀ ignored, (Plan.enter options ignored start.attributes depth
        (inside.plan (.ofStandard choose) options (.child parent number (.element start inside))
          (depth + 1) 0)).error? =
        (options.depthError? depth).or
          (inside.error? choose options (some start.name) (depth + 1)) := by
      intro ignored
      rw [Plan.error?_enter, ihInside]
      rfl
    rw [plan, error?, Plan.error?_append, Plan.error?_dispatch hfill, ihAfter]
  | text value position after ih => exact ih parent depth (number + 1)
  | comment value position after ih => exact ih parent depth (number + 1)
  | instruction position after ih => exact ih parent depth (number + 1)

/-- **A fold that may replace constructs ends with the first error for its tree**, whatever context
it starts from. -/
theorem Xml.Place.result_fold_of_lastWins {options : Options}
    (h : options.duplicateKeys = .lastWins) (ignored : List String) (place : Place) (c : Context) :
    (place.fold (.ofStandard choose) options ignored c).result =
      (place.error? choose options).elim (.ok ()) .error := by
  rw [fold_eq_exec (RuleTable.isBlind_ofStandard choose), Options.replaces_of_lastWins h,
    Plan.result_exec_true, plan, Plan.error?_enter, Content.error?_plan, error?]

end SchemaFold
