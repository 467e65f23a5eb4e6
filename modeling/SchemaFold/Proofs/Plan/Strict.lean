import SchemaFold.Proofs.Plan.Basic
import SchemaFold.Proofs.Write
/-!
Plans under the policy that rejects duplicate keys.

* `Plan.Completes`: a plan comes to its end and takes one context to another;
* `Plan.completes_iff`: carrying it out does just that;
* `Plan.Completes.exec_true`: and makes the same run if it may replace constructs;
* `Plan.Reaches`: a plan comes as far as some later part of it, at the level of a context or in one
  inside;
* `Plan.error_of_reaches`: an error from there on is the error of the whole plan.
-/

namespace SchemaFold.Plan

/-- A plan comes to its end without a duplicate key, from one context to another. -/
inductive Completes : Plan → Context → Context → Prop
  | done (c : Context) : Completes .done c c
  | note {p : Plan} {c d : Context} (event : Event) (rest : Completes p c d) :
      Completes (.note event p) c d
  | copy {p : Plan} {c d : Context} {key text : String}
      (rest : Completes p (c.setScalar key text) d) : Completes (.copy key text p) c d
  | scalar {p : Plan} {c d : Context} {key text : String} (site : Site)
      (free : c.context? key = none) (rest : Completes p (c.setScalar key text) d) :
      Completes (.scalar site key text p) c d
  | nested {inner p : Plan} {c d e : Context} {key : String} (site : Site)
      (free : c.get? key = none) (inside : Completes inner .empty e)
      (rest : Completes p (c.putNested key e) d) : Completes (.nested site key inner p) c d

/-- A plan that starts on one context comes to a later part of it on another: one of its own, or one
inside that is being filled. -/
inductive Reaches : Plan → Context → Plan → Context → Prop
  | here (p : Plan) (c : Context) : Reaches p c p c
  | note {p q : Plan} {c d : Context} (event : Event) (later : Reaches p c q d) :
      Reaches (.note event p) c q d
  | copy {p q : Plan} {c d : Context} {key text : String}
      (later : Reaches p (c.setScalar key text) q d) : Reaches (.copy key text p) c q d
  | scalar {p q : Plan} {c d : Context} {key text : String} (site : Site)
      (free : c.context? key = none) (later : Reaches p (c.setScalar key text) q d) :
      Reaches (.scalar site key text p) c q d
  | inside {inner q : Plan} {c d : Context} {key : String} (site : Site) (rest : Plan)
      (free : c.get? key = none) (later : Reaches inner .empty q d) :
      Reaches (.nested site key inner rest) c q d
  | after {inner p q : Plan} {c d e : Context} {key : String} (site : Site)
      (free : c.get? key = none) (inside : Completes inner .empty e)
      (later : Reaches p (c.putNested key e) q d) : Reaches (.nested site key inner p) c q d

variable {p q inner rest : Plan} {site : Site} {key text : String} {c d : Context}

/-! ### Plans that come to their end -/

/-- A rule's text that is not refused is written, and the plan goes on. -/
theorem exec_scalar_of_free (h : c.context? key = none) (replaces : Bool) (site : Site)
    (text : String) (rest : Plan) :
    (scalar site key text rest).exec replaces c = rest.exec replaces (c.setScalar key text) := by
  have hfree : c.context? (key, text).1 = none := h
  rw [exec, Fold.writeScalar_of_free hfree, Run.done_andThen]

/-- A context that is not refused is put under its key, and the plan goes on. -/
theorem exec_nested_of_free (h : c.get? key = none) (replaces : Bool) (site : Site)
    (inner rest : Plan) :
    (nested site key inner rest).exec replaces c =
      ((inner.exec replaces .empty).under c key []).andThen (rest.exec replaces) := by
  rw [exec, Fold.nest_of_free h]

theorem exec_nested_of_ok (h : c.get? key = none)
    (hinner : (inner.exec false .empty).result = .ok ()) (site : Site) (rest : Plan) :
    ((nested site key inner rest).exec false c).Agree
      (rest.exec false (c.putNested key (inner.exec false .empty).context)) := by
  have hunder : ((inner.exec false .empty).under c key []).result = .ok () := hinner
  rw [exec_nested_of_free h, Run.andThen_of_ok hunder]
  exact ⟨rfl, rfl⟩

theorem exec_nested_of_error {error : Error} (h : c.get? key = none)
    (hinner : (inner.exec false .empty).result = .error error) (site : Site) (rest : Plan) :
    ((nested site key inner rest).exec false c).result = .error error := by
  have hunder : ((inner.exec false .empty).under c key []).result = .error error := hinner
  rw [exec_nested_of_free h, Run.andThen_of_error hunder, hunder]

theorem completes_of_ok (h : (p.exec false c).result = .ok ()) :
    p.Completes c (p.exec false c).context := by
  induction p generalizing c with
  | done => exact .done c
  | fail error => exact absurd h (by simp [exec, Run.fail])
  | note event rest ih => exact .note event (ih h)
  | copy key text rest ih => exact .copy (ih h)
  | scalar site key text rest ih =>
    -- without leave to replace, the text is written only if no context is there
    have hfree : c.context? key = none := by
      have hwrite := (Run.result_andThen_eq_ok.mp h).1
      exact (Fold.writeScalar_result_eq_ok.mp hwrite).resolve_left (by simp)
    rw [exec_scalar_of_free hfree] at h ⊢
    exact .scalar site hfree (ih h)
  | nested site key inner rest ihInner ihRest =>
    obtain ⟨hnest, hrest⟩ := Run.result_andThen_eq_ok.mp h
    obtain ⟨hroom, hinner⟩ := Fold.nest_result_eq_ok.mp hnest
    have hfree : c.get? key = none := hroom.resolve_left (by simp)
    rw [Fold.nest_of_free hfree] at hrest
    rw [(exec_nested_of_ok hfree hinner site rest).context]
    exact .nested site hfree (ihInner hinner) (ihRest hrest)

theorem Completes.exec_eq (h : p.Completes c d) :
    (p.exec false c).result = .ok () ∧ (p.exec false c).context = d := by
  induction h with
  | done c => exact ⟨rfl, rfl⟩
  | note event _ ih => exact ih
  | copy _ ih => exact ih
  | scalar site hfree _ ih =>
    rw [exec_scalar_of_free hfree]
    exact ih
  | nested site hfree _ _ ihInside ihRest =>
    have hagree := exec_nested_of_ok hfree ihInside.1 site
    rw [(hagree _).result, (hagree _).context, ihInside.2]
    exact ihRest

/-- **A plan comes to its end just if carrying it out does.** -/
theorem completes_iff :
    p.Completes c d ↔ (p.exec false c).result = .ok () ∧ (p.exec false c).context = d := by
  constructor
  · exact Completes.exec_eq
  · rintro ⟨hok, rfl⟩
    exact completes_of_ok hok

/-- **Leave to replace constructs makes no difference** to a plan that comes to its end without
it. -/
theorem Completes.exec_true (h : p.Completes c d) : p.exec true c = p.exec false c := by
  induction h with
  | done c => rfl
  | note event _ ih => exact Run.andThen_congr fun _ => ih
  | copy _ ih => exact ih
  | scalar site hfree _ ih => rw [exec_scalar_of_free hfree, exec_scalar_of_free hfree, ih]
  | nested site hfree hinside _ ihInside ihRest =>
    rw [exec_nested_of_free hfree, exec_nested_of_free hfree, ihInside]
    refine Run.andThen_congr fun _ => ?_
    rw [Run.under, hinside.exec_eq.2]
    exact ihRest

/-- Plans that come to their end one after the other do so in turn. -/
theorem Completes.of_append (h : (p ++ q).Completes c d) :
    ∃ e, p.Completes c e ∧ q.Completes e d := by
  induction p generalizing c with
  | done => exact ⟨c, .done c, h⟩
  | fail error => cases h
  | note event rest ih =>
    cases h with
    | note _ hrest =>
      obtain ⟨e, hp, hq⟩ := ih hrest
      exact ⟨e, .note event hp, hq⟩
  | copy key text rest ih =>
    cases h with
    | copy hrest =>
      obtain ⟨e, hp, hq⟩ := ih hrest
      exact ⟨e, .copy hp, hq⟩
  | scalar site key text rest ih =>
    cases h with
    | scalar _ hfree hrest =>
      obtain ⟨e, hp, hq⟩ := ih hrest
      exact ⟨e, .scalar site hfree hp, hq⟩
  | nested site key inner rest _ ih =>
    cases h with
    | nested _ hfree hinside hrest =>
      obtain ⟨e, hp, hq⟩ := ih hrest
      exact ⟨e, .nested site hfree hinside hp, hq⟩

theorem Completes.append {e : Context} (h : p.Completes c e) (h' : q.Completes e d) :
    (p ++ q).Completes c d := by
  induction h with
  | done c => exact h'
  | note event _ ih => exact .note event (ih h')
  | copy _ ih => exact .copy (ih h')
  | scalar site hfree _ ih => exact .scalar site hfree (ih h')
  | nested site hfree hinside _ _ ih => exact .nested site hfree hinside (ih h')

/-! ### Parts that a plan comes to -/

/-- **An error that a plan comes to is its error.** -/
theorem error_of_reaches {error : Error} (h : p.Reaches c q d)
    (herror : (q.exec false d).result = .error error) :
    (p.exec false c).result = .error error := by
  induction h with
  | here p c => exact herror
  | note event _ ih => exact ih herror
  | copy _ ih => exact ih herror
  | scalar site hfree _ ih =>
    rw [exec_scalar_of_free hfree]
    exact ih herror
  | inside site rest hfree _ ih => exact exec_nested_of_error hfree (ih herror) site rest
  | after site hfree hinside _ ih =>
    rw [(exec_nested_of_ok hfree hinside.exec_eq.1 site _).result, hinside.exec_eq.2]
    exact ih herror

/-- A rule's text that would destroy a context is a duplicate key. -/
theorem error_of_reaches_scalar (h : p.Reaches c (.scalar site key text rest) d)
    (htaken : d.context? key ≠ none) :
    (p.exec false c).result = .error (.duplicateKey key site.element site.location) := by
  refine error_of_reaches h ?_
  have hkey : d.context? (key, text).1 ≠ none := htaken
  rw [exec, Fold.writeScalar_of_taken hkey, if_neg Bool.false_ne_true, Run.fail_andThen]
  rfl

/-- A context that would destroy whatever is there is a duplicate key. -/
theorem error_of_reaches_nested (h : p.Reaches c (.nested site key inner rest) d)
    (htaken : d.get? key ≠ none) :
    (p.exec false c).result = .error (.duplicateKey key site.element site.location) := by
  refine error_of_reaches h ?_
  rw [exec, Fold.nest_of_taken htaken, if_neg Bool.false_ne_true, Run.fail_andThen]
  rfl

end SchemaFold.Plan
