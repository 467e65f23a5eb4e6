import SchemaFold.Proofs.Plan.Writes
/-!
Plans without positions.

Events and errors name the position of an element, but no write depends on it.

* `Run.AgreeUpToPosition`: two runs that differ at most in what they report and in the positions
  that their errors name;
* `Plan.unlocated`: a plan whose elements are all at the start of the text;
* `Plan.IsCongruence.unlocated_ofElement`: elements of which a rule makes the same;
* `Plan.exec_unlocated`: a plan makes the same run without them, but for what it reports;
* `Xml.Place.fold_agree_unlocated`: so a fold does what is written for its tree without them.
-/

namespace SchemaFold

open Xml (Attribute Content Place StartTag)

/-- An error of a fold without the position that it names. -/
def Error.unlocated : Error → Error
  | .duplicateKey key element _ => .duplicateKey key element .start
  | .missingIdentifier element _ => .missingIdentifier element .start
  | e => e

/-- The site without its position. -/
def Site.unlocated (site : Site) : Site := ⟨site.element, .start⟩

/-! ### Runs -/

namespace Run

/-- Two runs leave the same context and end in the same way, whatever they report, and whatever
position an error names. -/
structure AgreeUpToPosition (left right : Run) : Prop where
  context : left.context = right.context
  result : left.result.mapError Error.unlocated = right.result.mapError Error.unlocated

variable {left right run : Run}

theorem AgreeUpToPosition.refl (run : Run) : run.AgreeUpToPosition run := ⟨rfl, rfl⟩

theorem AgreeUpToPosition.symm (h : left.AgreeUpToPosition right) :
    right.AgreeUpToPosition left :=
  ⟨h.context.symm, h.result.symm⟩

theorem AgreeUpToPosition.trans (h : left.AgreeUpToPosition run)
    (h' : run.AgreeUpToPosition right) : left.AgreeUpToPosition right :=
  ⟨h.context.trans h'.context, h.result.trans h'.result⟩

theorem AgreeUpToPosition.result_eq_ok_iff (h : left.AgreeUpToPosition right) :
    left.result = .ok () ↔ right.result = .ok () := by
  rw [← mapError_eq_ok_iff, h.result, mapError_eq_ok_iff]

theorem Agree.upToPosition (h : left.Agree right) : left.AgreeUpToPosition right :=
  ⟨h.context, congrArg (Except.mapError Error.unlocated) h.result⟩

theorem AgreeUpToPosition.andThen {nextLeft nextRight : Context → Run}
    (h : left.AgreeUpToPosition right)
    (hnext : ∀ c, (nextLeft c).AgreeUpToPosition (nextRight c)) :
    (left.andThen nextLeft).AgreeUpToPosition (right.andThen nextRight) := by
  obtain ⟨hcontext, hresult⟩ := h
  rcases hleft : left.result with e | _
  · -- an error on one side is an error on the other
    rcases hright : right.result with e' | _
    · rw [andThen_of_error hleft, andThen_of_error hright]
      exact ⟨hcontext, hresult⟩
    · rw [hleft, hright] at hresult
      have hdiffers : Except.error e.unlocated = Except.ok () := hresult
      exact absurd hdiffers (by simp)
  · rcases hright : right.result with e' | _
    · rw [hleft, hright] at hresult
      have hdiffers : Except.ok () = Except.error e'.unlocated := hresult
      exact absurd hdiffers (by simp)
    · rw [andThen_of_ok hleft, andThen_of_ok hright, hcontext]
      exact ⟨(hnext right.context).context, (hnext right.context).result⟩

end Run

namespace Fold

variable {replaces : Bool} {site site' : Site} {c : Context}

theorem writeScalar_unlocated (hsite : site.element = site'.element) (entry : String × String) :
    (writeScalar replaces site entry c).AgreeUpToPosition
      (writeScalar replaces site' entry c) := by
  by_cases hfree : c.context? entry.1 = none
  · rw [writeScalar_of_free hfree, writeScalar_of_free hfree]
    exact .refl _
  · rw [writeScalar_of_taken hfree, writeScalar_of_taken hfree]
    cases replaces with
    | true => exact ⟨rfl, rfl⟩
    | false =>
      refine ⟨rfl, ?_⟩
      show Except.error (Error.duplicateKey entry.1 site.element .start) = _
      rw [hsite]
      rfl

theorem nest_unlocated {key : String} {fill fill' : Context → Run}
    (hsite : site.element = site'.element)
    (h : (fill .empty).AgreeUpToPosition (fill' .empty)) :
    (nest replaces site key fill c).AgreeUpToPosition (nest replaces site' key fill' c) := by
  by_cases hroom : replaces = true ∨ c.get? key = none
  · obtain ⟨events, hevents⟩ := nest_eq_under hroom site fill
    obtain ⟨events', hevents'⟩ := nest_eq_under hroom site' fill'
    rw [hevents, hevents', Run.under, Run.under, h.context]
    exact ⟨rfl, h.result⟩
  · rw [not_or, Bool.not_eq_true] at hroom
    rw [nest_of_taken hroom.2, nest_of_taken hroom.2, hroom.1]
    refine ⟨rfl, ?_⟩
    show Except.error (Error.duplicateKey key site.element .start) = _
    rw [hsite]
    rfl

end Fold

/-! ### Plans -/

namespace Plan

/-- The plan without positions. -/
def unlocated : Plan → Plan
  | .done => .done
  | .fail e => .fail e.unlocated
  | .note event rest => .note event rest.unlocated
  | .copy key text rest => .copy key text rest.unlocated
  | .scalar site key text rest => .scalar site.unlocated key text rest.unlocated
  | .nested site key inner rest => .nested site.unlocated key inner.unlocated rest.unlocated

theorem unlocated_append (p q : Plan) : (p ++ q).unlocated = p.unlocated ++ q.unlocated := by
  induction p with
  | done => rfl
  | fail e => rfl
  | note event rest ih => exact congrArg (note event) ih
  | copy key text rest ih => exact congrArg (copy key text) ih
  | scalar site key text rest ih => exact congrArg (scalar site.unlocated key text) ih
  | nested site key inner rest _ ih =>
    exact congrArg (nested site.unlocated key inner.unlocated) ih

theorem unlocated_ofScalars (site : Site) (entries : List (String × String)) :
    (ofScalars site entries).unlocated = ofScalars site.unlocated entries := by
  induction entries with
  | nil => rfl
  | cons entry rest ih => exact congrArg (scalar site.unlocated entry.1 entry.2) ih

theorem unlocated_ofAttributes (ignored : List String) (attributes : List Attribute) :
    (ofAttributes ignored attributes).unlocated = ofAttributes ignored attributes := by
  induction attributes with
  | nil => rfl
  | cons a rest ih =>
    rw [ofAttributes]
    split
    · exact ih
    · exact congrArg (copy a.name.localName a.value) ih

theorem unlocated_descend (site : Site) (descent : Descent) (inside : Plan)
    (closing : List (String × String)) :
    (descend site descent inside closing).unlocated =
      descend site.unlocated descent inside.unlocated closing := by
  rw [descend, descend, unlocated_append, unlocated_ofScalars]
  rcases descent.scope with _ | key | _
  · show _ ++ (inside ++ ofScalars site closing).unlocated = _
    rw [unlocated_append, unlocated_ofScalars]
  · show _ ++ nested site.unlocated key inside.unlocated (ofScalars site closing).unlocated = _
    rw [unlocated_ofScalars]
  · rfl

theorem unlocated_enter (options : Options) (ignored : List String) (attributes : List Attribute)
    (depth : Nat) (inside : Plan) :
    (enter options ignored attributes depth inside).unlocated =
      enter options ignored attributes depth inside.unlocated := by
  rw [enter, enter]
  rcases options.limits.checkDepth depth with fault | _
  · rfl
  · show (ofAttributes ignored attributes ++ inside).unlocated = _
    rw [unlocated_append, unlocated_ofAttributes]

section
variable {R : Plan → Plan → Prop} {choose : ElementKind → Option StandardRule}
  {start start' : StartTag} {inside inside' : Content} {declared declared' : Bool}

/-- Two elements with the same rule, which has the same answer for both, or without one. What is
made of them without positions goes along with what is made of their insides without positions. -/
theorem IsCongruence.unlocated_ofElement (hR : IsCongruence R)
    (hrule : standardOf? choose start.name = standardOf? choose start'.name)
    (hseen : ∀ standard, standardOf? choose start.name = some standard → start.name = start'.name ∧
      standard.descentIn? declared start inside = standard.descentIn? declared' start' inside')
    (missing : MissingIdentifier) {fill fill' : List String → Plan}
    (hfill : ∀ ignored, R (fill ignored).unlocated (fill' ignored).unlocated) :
    R (Plan.ofElement choose missing declared start inside fill).unlocated
      (Plan.ofElement choose missing declared' start' inside' fill').unlocated := by
  rcases hstandard : standardOf? choose start.name with _ | standard
  · rw [ofElement_of_ruleless hstandard, ofElement_of_ruleless (hrule ▸ hstandard)]
    exact hfill []
  · have hstandard' : standardOf? choose start'.name = some standard := hrule ▸ hstandard
    obtain ⟨hname, hdescent⟩ := hseen standard hstandard
    have hsite : start.site.unlocated = start'.site.unlocated := by
      rw [Site.unlocated, Site.unlocated, StartTag.site, StartTag.site, hname]
    rcases hfound : standard.descentIn? declared start inside with _ | descent
    · rw [ofElement_of_unnamed hstandard hfound,
        ofElement_of_unnamed hstandard' (hdescent ▸ hfound)]
      cases missing with
      | reject =>
        show R (.fail (.missingIdentifier start.name.localName .start)) _
        rw [hname]
        exact hR.refl _
      | skip => exact hR.refl _
    · rw [ofElement_of_descent hstandard hfound,
        ofElement_of_descent hstandard' (hdescent ▸ hfound), unlocated_descend, unlocated_descend,
        hsite]
      exact hR.descend (hfill standard.ignored) start'.site.unlocated descent standard.closing

end

/-- A plan without positions makes the same run, but for what it reports and the position that an
error names. -/
theorem exec_unlocated (replaces : Bool) (p : Plan) (c : Context) :
    (p.unlocated.exec replaces c).AgreeUpToPosition (p.exec replaces c) := by
  induction p generalizing c with
  | done => exact .refl _
  | fail e => exact ⟨rfl, by cases e <;> rfl⟩
  | note event rest ih => exact ⟨(ih c).context, (ih c).result⟩
  | copy key text rest ih => exact ih _
  | scalar site key text rest ih =>
    have hsite : site.unlocated.element = site.element := rfl
    exact (Fold.writeScalar_unlocated hsite (key, text)).andThen ih
  | nested site key inner rest ihInner ih =>
    have hsite : site.unlocated.element = site.element := rfl
    exact (Fold.nest_unlocated hsite (ihInner .empty)).andThen ih

end Plan

/-- A fold does what the writes of its tree do without positions. -/
theorem Xml.Place.fold_agree_unlocated (choose : ElementKind → Option StandardRule)
    (options : Options) (ignored : List String) (place : Place) (c : Context) :
    (place.fold (.ofStandard choose) options ignored c).AgreeUpToPosition
      ((place.writes choose options ignored).unlocated.exec options.replaces c) :=
  (place.fold_agree_writes choose options ignored c).upToPosition.trans
    (Plan.exec_unlocated options.replaces _ c).symm

end SchemaFold
