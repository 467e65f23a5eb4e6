import SchemaFold.Proofs.Plan.Standard
import SchemaFold.Proofs.Write
/-!
Plans without their events.

* `Plan.silent`: a plan that reports nothing;
* `Plan.agree_of_silent_eq`: two plans that differ in their events alone leave the same context and
  end in the same way.
-/

namespace SchemaFold

open Xml (Attribute)

/-- Runs that fill a new context alike leave the same outside. -/
theorem Fold.nest_agree {replaces : Bool} {key : String} {c : Context} {fill other : Context → Run}
    (site : Site) (h : (fill .empty).Agree (other .empty)) :
    (nest replaces site key fill c).Agree (nest replaces site key other c) := by
  by_cases hroom : replaces = true ∨ c.get? key = none
  · obtain ⟨events, hfill⟩ := nest_eq_under hroom site fill
    obtain ⟨events', hother⟩ := nest_eq_under hroom site other
    rw [hfill, hother, Run.under, Run.under, h.context, h.result]
    exact ⟨rfl, rfl⟩
  · rw [not_or, Bool.not_eq_true] at hroom
    rw [nest_of_taken hroom.2, nest_of_taken hroom.2, hroom.1]
    exact .refl _

namespace Plan

/-- The plan without its events. -/
def silent : Plan → Plan
  | .done => .done
  | .fail e => .fail e
  | .note _ rest => rest.silent
  | .copy key text rest => .copy key text rest.silent
  | .scalar site key text rest => .scalar site key text rest.silent
  | .nested site key inner rest => .nested site key inner.silent rest.silent

theorem silent_append (p q : Plan) : (p ++ q).silent = p.silent ++ q.silent := by
  induction p with
  | done => rfl
  | fail e => rfl
  | note event rest ih => exact ih
  | copy key text rest ih => exact congrArg (copy key text) ih
  | scalar site key text rest ih => exact congrArg (scalar site key text) ih
  | nested site key inner rest _ ih => exact congrArg (nested site key inner.silent) ih

theorem silent_ofScalars (site : Site) (entries : List (String × String)) :
    (ofScalars site entries).silent = ofScalars site entries := by
  induction entries with
  | nil => rfl
  | cons entry rest ih => exact congrArg (scalar site entry.1 entry.2) ih

theorem silent_ofAttributes (ignored : List String) (attributes : List Attribute) :
    (ofAttributes ignored attributes).silent = ofAttributes ignored attributes := by
  induction attributes with
  | nil => rfl
  | cons a rest ih =>
    rw [ofAttributes]
    split
    · exact ih
    · exact congrArg (copy a.name.localName a.value) ih

theorem silent_descend (site : Site) (descent : Descent) (inside : Plan)
    (closing : List (String × String)) :
    (descend site descent inside closing).silent =
      descend site descent inside.silent closing := by
  rw [descend, descend, silent_append, silent_ofScalars]
  rcases descent.scope with _ | key | _
  · show _ ++ (inside ++ ofScalars site closing).silent = _
    rw [silent_append, silent_ofScalars]
  · show _ ++ nested site key inside.silent (ofScalars site closing).silent = _
    rw [silent_ofScalars]
  · rfl

theorem silent_enter (options : Options) (ignored : List String) (attributes : List Attribute)
    (depth : Nat) (inside : Plan) :
    (enter options ignored attributes depth inside).silent =
      enter options ignored attributes depth inside.silent := by
  rw [enter, enter]
  rcases options.limits.checkDepth depth with fault | _
  · rfl
  · show (ofAttributes ignored attributes ++ inside).silent = _
    rw [silent_append, silent_ofAttributes]

/-- A plan without its events makes the same run, but for what it reports. -/
theorem exec_silent (replaces : Bool) (p : Plan) (c : Context) :
    (p.silent.exec replaces c).Agree (p.exec replaces c) := by
  induction p generalizing c with
  | done => exact .refl _
  | fail e => exact .refl _
  | note event rest ih => exact ⟨(ih c).context, (ih c).result⟩
  | copy key text rest ih => exact ih _
  | scalar site key text rest ih => exact (Run.Agree.refl _).andThen ih
  | nested site key inner rest ihInner ih =>
    exact (Fold.nest_agree site (ihInner .empty)).andThen ih

theorem agree_of_silent_eq {p q : Plan} (h : p.silent = q.silent) (replaces : Bool)
    (c : Context) : (p.exec replaces c).Agree (q.exec replaces c) := by
  have hp := exec_silent replaces p c
  have hq := exec_silent replaces q c
  rw [h] at hp
  exact ⟨hp.context.symm.trans hq.context, hp.result.symm.trans hq.result⟩

end Plan

end SchemaFold
