import SchemaFold.Proofs.Plan.Standard
/-!
Relations between plans that go along with how plans are put together.

* `Plan.IsCongruence`: a relation that holds between plans if it holds between their parts;
* `Plan.IsCongruence.descend`, `Plan.IsCongruence.enter`, `Plan.IsCongruence.ofStandard`: so it does
  for the plans of elements, if it does for what is inside them.
-/

namespace SchemaFold.Plan

open Xml (Attribute Place)

/-- A relation between plans that holds for whole plans if it holds for their parts. -/
structure IsCongruence (R : Plan → Plan → Prop) : Prop where
  refl (p : Plan) : R p p
  append {p p' q q' : Plan} (h : R p p') (h' : R q q') : R (p ++ q) (p' ++ q')
  nested (site : Site) (key : String) {inner inner' rest rest' : Plan} (hinner : R inner inner')
    (h : R rest rest') : R (.nested site key inner rest) (.nested site key inner' rest')

/-- Plans that are put together from the same parts are the same. -/
theorem isCongruence_eq : IsCongruence Eq where
  refl _ := rfl
  append h h' := by rw [h, h']
  nested site key _ _ _ _ hinner h := by rw [hinner, h]

namespace IsCongruence

variable {R : Plan → Plan → Prop} {p q : Plan}

theorem descend (hR : IsCongruence R) (h : R p q) (site : Site) (descent : Descent)
    (closing : List (String × String)) :
    R (descend site descent p closing) (Plan.descend site descent q closing) := by
  refine hR.append (hR.refl _) ?_
  rcases descent.scope with _ | key | _
  · exact hR.append h (hR.refl _)
  · exact hR.nested site key h (hR.refl _)
  · exact hR.refl _

theorem enter (hR : IsCongruence R) (h : R p q) (options : Options) (ignored : List String)
    (attributes : List Attribute) (depth : Nat) :
    R (enter options ignored attributes depth p)
      (Plan.enter options ignored attributes depth q) := by
  rw [Plan.enter, Plan.enter]
  rcases options.limits.checkDepth depth with fault | _
  · exact hR.refl _
  · exact hR.append (hR.refl _) h

/-- What one built-in rule makes of one element goes along with what fills a context there. -/
theorem ofStandard (hR : IsCongruence R) (standard : StandardRule) (missing : MissingIdentifier)
    (place : Place) {fill fill' : List String → Plan}
    (hfill : ∀ ignored, R (fill ignored) (fill' ignored)) :
    R (ofStandard standard missing place fill) (Plan.ofStandard standard missing place fill') := by
  rw [Plan.ofStandard, Plan.ofStandard]
  rcases standard.descent? place with _ | descent
  · exact hR.refl _
  · exact hR.descend (hfill standard.ignored) place.site descent standard.closing

end IsCongruence

end SchemaFold.Plan
