import SchemaFold.Proofs.Context.Reordered
import SchemaFold.Proofs.Plan.Congruence
import SchemaFold.Proofs.Write
/-!
Plans that copy attributes in another order.

Copies of attributes are not checked, so two copies to different keys may always be exchanged. This
holds whatever the context is like, whether or not constructs may be replaced, and also for a plan
that ends in an error.

* `Run.AgreeUpToOrder`: two runs that leave the same entries and end in the same way;
* `Plan.Shuffled`: neighbouring copies to different keys are exchanged, also inside nested contexts;
* `Plan.Shuffled.exec`: such plans make runs of this kind.
-/

namespace SchemaFold

/-! ### Runs -/

/-- Two runs leave contexts with the same entries and end in the same way, whatever they report. -/
structure Run.AgreeUpToOrder (left right : Run) : Prop where
  context : left.context.Reordered right.context
  result : left.result = right.result

namespace Run.AgreeUpToOrder

variable {left middle right : Run}

theorem refl (run : Run) : run.AgreeUpToOrder run := ⟨.refl _, rfl⟩

theorem trans (h : left.AgreeUpToOrder middle) (h' : middle.AgreeUpToOrder right) :
    left.AgreeUpToOrder right :=
  ⟨h.context.trans h'.context, h.result.trans h'.result⟩

/-- Runs agree one after the other, if the second ones agree on any contexts with the same
entries. -/
theorem andThen {nextLeft nextRight : Context → Run} (h : left.AgreeUpToOrder right)
    (hnext : ∀ {c d : Context}, c.Reordered d → (nextLeft c).AgreeUpToOrder (nextRight d)) :
    (left.andThen nextLeft).AgreeUpToOrder (right.andThen nextRight) := by
  obtain ⟨hcontext, hresult⟩ := h
  rcases hleft : left.result with e | _
  · rw [andThen_of_error hleft, andThen_of_error (hresult ▸ hleft)]
    exact ⟨hcontext, hresult⟩
  · rw [andThen_of_ok hleft, andThen_of_ok (hresult ▸ hleft)]
    exact ⟨(hnext hcontext).context, (hnext hcontext).result⟩

end Run.AgreeUpToOrder

namespace Fold

variable {replaces : Bool} {c d : Context} {site : Site}

/-- The order of the entries that are there does not count for a text. -/
theorem writeScalar_reordered (h : c.Reordered d) (entry : String × String) :
    (writeScalar replaces site entry c).AgreeUpToOrder (writeScalar replaces site entry d) := by
  have hput : (c.setScalar entry.1 entry.2).Reordered (d.setScalar entry.1 entry.2) :=
    h.put entry.1 (.scalar entry.2)
  by_cases hfree : c.context? entry.1 = none
  · rw [writeScalar_of_free hfree, writeScalar_of_free (h.context?_eq_none hfree)]
    exact ⟨hput, rfl⟩
  · have htaken : d.context? entry.1 ≠ none := fun hd => hfree (h.symm.context?_eq_none hd)
    rw [writeScalar_of_taken hfree, writeScalar_of_taken htaken]
    cases replaces with
    | true => exact ⟨hput, rfl⟩
    | false => exact ⟨h, rfl⟩

/-- Nor does it for a new context, and inside this the order may be another one too. -/
theorem nest_reordered {key : String} {fill fill' : Context → Run} (h : c.Reordered d)
    (hfill : (fill .empty).AgreeUpToOrder (fill' .empty)) :
    (nest replaces site key fill c).AgreeUpToOrder (nest replaces site key fill' d) := by
  have hput : (c.putNested key (fill .empty).context).Reordered
      (d.putNested key (fill' .empty).context) := h.put key (.context hfill.context)
  by_cases hfree : c.get? key = none
  · rw [nest_of_free hfree, nest_of_free (h.get?_eq_none hfree)]
    exact ⟨hput, hfill.result⟩
  · have htaken : d.get? key ≠ none := fun hd => hfree (h.symm.get?_eq_none hd)
    rw [nest_of_taken hfree, nest_of_taken htaken]
    cases replaces with
    | true => exact ⟨hput, hfill.result⟩
    | false => exact ⟨h, rfl⟩

end Fold

/-! ### Plans -/

namespace Plan

/-- Plans that differ in the order of neighbouring copies to different keys. -/
inductive Shuffled : Plan → Plan → Prop
  | refl (p : Plan) : Shuffled p p
  | append {p p' q q' : Plan} (h : Shuffled p p') (h' : Shuffled q q') :
      Shuffled (p ++ q) (p' ++ q')
  | nested (site : Site) (key : String) {inner inner' rest rest' : Plan}
      (hinner : Shuffled inner inner') (h : Shuffled rest rest') :
      Shuffled (.nested site key inner rest) (.nested site key inner' rest')
  | swap {key other : String} (hne : key ≠ other) (text text' : String) (rest : Plan) :
      Shuffled (.copy key text (.copy other text' rest)) (.copy other text' (.copy key text rest))
  | trans {p q r : Plan} (h : Shuffled p q) (h' : Shuffled q r) : Shuffled p r

theorem Shuffled.isCongruence : IsCongruence Shuffled where
  refl := .refl
  append := .append
  nested site key _ _ _ _ hinner h := .nested site key hinner h

variable {p q : Plan} {c d : Context}

/-- The order of the entries that are there does not count for a plan. -/
theorem exec_reordered (replaces : Bool) (p : Plan) (h : c.Reordered d) :
    (p.exec replaces c).AgreeUpToOrder (p.exec replaces d) := by
  induction p generalizing c d with
  | done => exact ⟨h, rfl⟩
  | fail e => exact ⟨h, rfl⟩
  | note event rest ih => exact ⟨(ih h).context, (ih h).result⟩
  | copy key text rest ih => exact ih (h.put key (.scalar text))
  | scalar site key text rest ih => exact (Fold.writeScalar_reordered h (key, text)).andThen ih
  | nested site key inner rest ihInner ih =>
    exact (Fold.nest_reordered h (.refl (inner.exec replaces .empty))).andThen ih

/-- **The order of copies does not count**, whatever becomes of the plan. -/
theorem Shuffled.exec (h : p.Shuffled q) (replaces : Bool) (hcontext : c.Reordered d) :
    (p.exec replaces c).AgreeUpToOrder (q.exec replaces d) := by
  induction h generalizing c d with
  | refl p => exact exec_reordered replaces p hcontext
  | append _ _ ih ih' =>
    rw [exec_append, exec_append]
    exact (ih hcontext).andThen ih'
  | nested site key _ _ ihInner ih =>
    exact (Fold.nest_reordered hcontext (ihInner .empty)).andThen ih
  | swap hne text text' rest =>
    -- both orders leave the same entries for the rest
    refine exec_reordered replaces rest ?_
    exact (Context.reordered_put_put hne c _ _).trans
      ((hcontext.put _ (.refl _)).put _ (.refl _))
  | trans _ _ ih ih' => exact (ih (.refl c)).trans (ih' hcontext)

end Plan

end SchemaFold
