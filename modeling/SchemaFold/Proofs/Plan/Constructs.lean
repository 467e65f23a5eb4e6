import SchemaFold.Proofs.Context.Nested
import SchemaFold.Proofs.Plan.Strict
/-!
The constructs of a plan, and what becomes of them where duplicate keys are rejected.

A construct is a context that is put under a key for an element. Texts of rules and other constructs
never take its place: they are duplicate keys. Copies of attributes are not checked, so a copy to
the same context later, under the key of the construct, destroys it.

* `Plan.constructs`: the constructs of a plan, with the keys that lead to them;
* `Plan.Overwrites`: an attribute is copied under the key of a construct that is there already;
* `Plan.Completes.overwritesOn_iff`: this is to come to a copy over a context;
* `Plan.Completes.kept_iff`, `Plan.Completes.nestedCount_eq_iff`: all constructs are there in the
  end just if this does not happen.
-/

namespace SchemaFold

/-- A context that a fold inserts for an element: the keys that lead to it, and what it holds. -/
structure Construct where
  path : List String
  context : Context

namespace Construct

/-- A construct as seen from the context around the one that it is in. -/
def within (key : String) (construct : Construct) : Construct :=
  { construct with path := key :: construct.path }

/-- A context under a key, and the constructs inside it. -/
def nest (key : String) (context : Context) (inside : List Construct) : List Construct :=
  ⟨[key], context⟩ :: inside.map (within key)

end Construct

namespace Plan

/-- The constructs that a plan inserts, in order, if it comes to its end. -/
def constructs : Plan → List Construct
  | .done => []
  | .fail _ => []
  | .note _ rest => rest.constructs
  | .copy _ _ rest => rest.constructs
  | .scalar _ _ _ rest => rest.constructs
  | .nested _ key inner rest =>
    Construct.nest key (inner.exec false .empty).context inner.constructs ++ rest.constructs

theorem length_constructs_nested (site : Site) (key : String) (inner rest : Plan) :
    (nested site key inner rest).constructs.length =
      inner.constructs.length + 1 + rest.constructs.length := by
  rw [constructs, Construct.nest, List.length_append, List.length_cons, List.length_map]

/-- An attribute is copied under a key, at the level of the context that the plan starts on. -/
def Copies (key : String) : Plan → Prop
  | .done => False
  | .fail _ => False
  | .note _ rest => rest.Copies key
  | .copy other _ rest => other = key ∨ rest.Copies key
  | .scalar _ _ _ rest => rest.Copies key
  | .nested _ _ _ rest => rest.Copies key

/-- At some level an attribute is copied under a key that a construct has been put under before. -/
def Overwrites : Plan → Prop
  | .done => False
  | .fail _ => False
  | .note _ rest => rest.Overwrites
  | .copy _ _ rest => rest.Overwrites
  | .scalar _ _ _ rest => rest.Overwrites
  | .nested _ key inner rest => rest.Copies key ∨ inner.Overwrites ∨ rest.Overwrites

/-- At some level an attribute is copied under the key of a context, one that the plan has put there
or one that was there when it started. -/
def OverwritesOn (c : Context) (p : Plan) : Prop :=
  p.Overwrites ∨ ∃ key, c.context? key ≠ none ∧ p.Copies key

instance decidableCopies (key : String) : (p : Plan) → Decidable (p.Copies key)
  | .done => inferInstanceAs (Decidable False)
  | .fail _ => inferInstanceAs (Decidable False)
  | .note _ rest => decidableCopies key rest
  | .copy other _ rest =>
    have := decidableCopies key rest
    inferInstanceAs (Decidable (other = key ∨ rest.Copies key))
  | .scalar _ _ _ rest => decidableCopies key rest
  | .nested _ _ _ rest => decidableCopies key rest

instance decidableOverwrites : (p : Plan) → Decidable p.Overwrites
  | .done => inferInstanceAs (Decidable False)
  | .fail _ => inferInstanceAs (Decidable False)
  | .note _ rest => decidableOverwrites rest
  | .copy _ _ rest => decidableOverwrites rest
  | .scalar _ _ _ rest => decidableOverwrites rest
  | .nested _ key inner rest =>
    have := decidableOverwrites inner
    have := decidableOverwrites rest
    inferInstanceAs (Decidable (rest.Copies key ∨ inner.Overwrites ∨ rest.Overwrites))

variable {p inner : Plan} {c d e : Context} {key text : String}

/-! ### Copies over a context -/

theorem overwritesOn_empty : p.OverwritesOn .empty ↔ p.Overwrites := by
  constructor
  · rintro (hown | ⟨key, hkey, _⟩)
    · exact hown
    · exact absurd rfl hkey
  · exact Or.inl

theorem overwritesOn_copy :
    (copy key text p).OverwritesOn c ↔
      c.context? key ≠ none ∨ p.OverwritesOn (c.setScalar key text) := by
  constructor
  · rintro (hlater | ⟨other, hother, rfl | hcopies⟩)
    · exact Or.inr (Or.inl hlater)
    · exact Or.inl hother
    · -- the first copy may be the one that counts
      by_cases heq : key = other
      · exact Or.inl (heq ▸ hother)
      · refine Or.inr (Or.inr ⟨other, ?_, hcopies⟩)
        rwa [Context.context?_setScalar_of_ne heq]
  · rintro (hkey | hlater | ⟨other, hother, hcopies⟩)
    · exact Or.inr ⟨key, hkey, Or.inl rfl⟩
    · exact Or.inl hlater
    · exact Or.inr ⟨other, fun hnone => hother (Context.context?_setScalar_eq_none hnone),
        Or.inr hcopies⟩

theorem overwritesOn_scalar (site : Site) (h : c.context? key = none) :
    (scalar site key text p).OverwritesOn c ↔ p.OverwritesOn (c.setScalar key text) := by
  refine or_congr_right (exists_congr fun other => and_congr_left fun _ => ?_)
  by_cases heq : key = other
  · subst heq
    rw [h, Context.context?_setScalar_eq_none h]
  · rw [Context.context?_setScalar_of_ne heq]

theorem overwritesOn_nested (site : Site) (h : c.get? key = none) (e : Context) :
    (nested site key inner p).OverwritesOn c ↔
      inner.Overwrites ∨ p.OverwritesOn (c.putNested key e) := by
  constructor
  · rintro ((hcopies | hinner | hlater) | ⟨other, hother, hcopies⟩)
    · exact Or.inr (Or.inr ⟨key, by simp, hcopies⟩)
    · exact Or.inl hinner
    · exact Or.inr (Or.inl hlater)
    · -- the new context is under a free key, so the one copied over is not
      have hne : key ≠ other := by
        rintro rfl
        rw [Context.context?, h] at hother
        exact hother rfl
      refine Or.inr (Or.inr ⟨other, ?_, hcopies⟩)
      rwa [Context.context?_putNested_of_ne hne]
  · rintro (hinner | hlater | ⟨other, hother, hcopies⟩)
    · exact Or.inl (Or.inr (Or.inl hinner))
    · exact Or.inl (Or.inr (Or.inr hlater))
    · by_cases heq : key = other
      · exact Or.inl (Or.inl (heq ▸ hcopies))
      · refine Or.inr ⟨other, ?_, hcopies⟩
        rwa [Context.context?_putNested_of_ne heq] at hother

/-- A plan that comes to a copy under the key of a context has a copy over a context. -/
theorem overwritesOn_of_reaches {rest : Plan} (h : p.Reaches c (.copy key text rest) d)
    (htaken : d.context? key ≠ none) : p.OverwritesOn c := by
  generalize hlater : Plan.copy key text rest = later at h
  induction h with
  | here p c =>
    subst hlater
    exact overwritesOn_copy.mpr (Or.inl htaken)
  | note event _ ih => exact ih htaken hlater
  | copy _ ih => exact overwritesOn_copy.mpr (Or.inr (ih htaken hlater))
  | scalar site hfree _ ih => exact (overwritesOn_scalar site hfree).mpr (ih htaken hlater)
  | inside site rest hfree _ ih =>
    refine (overwritesOn_nested site hfree .empty).mpr (Or.inl ?_)
    exact overwritesOn_empty.mp (ih htaken hlater)
  | after site hfree _ _ ih =>
    exact (overwritesOn_nested site hfree _).mpr (Or.inr (ih htaken hlater))

namespace Completes

/-- A plan that comes to its end has come to all its copies over a context. -/
theorem overwritesOn_iff (h : p.Completes c d) :
    p.OverwritesOn c ↔
      ∃ key text rest c', p.Reaches c (.copy key text rest) c' ∧ c'.context? key ≠ none := by
  refine ⟨fun hover => ?_, fun ⟨_, _, _, _, hreaches, htaken⟩ =>
    overwritesOn_of_reaches hreaches htaken⟩
  induction h with
  | done c => exact absurd hover (by simp [OverwritesOn, Overwrites, Copies])
  | note event _ ih =>
    obtain ⟨key, text, rest, c', hreaches, htaken⟩ := ih hover
    exact ⟨key, text, rest, c', .note event hreaches, htaken⟩
  | @copy p c d key text _ ih =>
    rcases overwritesOn_copy.mp hover with hkey | hlater
    · exact ⟨key, text, p, c, .here _ c, hkey⟩
    · obtain ⟨key', text', rest, c', hreaches, htaken⟩ := ih hlater
      exact ⟨key', text', rest, c', .copy hreaches, htaken⟩
  | scalar site hfree _ ih =>
    obtain ⟨key, text, rest, c', hreaches, htaken⟩ := ih ((overwritesOn_scalar site hfree).mp hover)
    exact ⟨key, text, rest, c', .scalar site hfree hreaches, htaken⟩
  | nested site hfree hinside _ ihInside ihRest =>
    rcases (overwritesOn_nested site hfree _).mp hover with hinner | hlater
    · obtain ⟨key, text, rest, c', hreaches, htaken⟩ := ihInside (Or.inl hinner)
      exact ⟨key, text, rest, c', .inside site _ hfree hreaches, htaken⟩
    · obtain ⟨key, text, rest, c', hreaches, htaken⟩ := ihRest hlater
      exact ⟨key, text, rest, c', .after site hfree hinside hreaches, htaken⟩

/-! ### One key of a context -/

/-- A key that is there with no context never comes to hold one. -/
theorem context?_of_text (h : p.Completes c d) (hthere : c.get? key ≠ none)
    (htext : c.context? key = none) : d.context? key = none := by
  induction h with
  | done c => exact htext
  | note event _ ih => exact ih hthere htext
  | copy _ ih =>
    exact ih (Context.get?_put_ne_none hthere) (Context.context?_setScalar_eq_none htext)
  | scalar site _ _ ih =>
    exact ih (Context.get?_put_ne_none hthere) (Context.context?_setScalar_eq_none htext)
  | @nested inner p c d e other site hfree _ _ _ ih =>
    -- a new context goes under a free key only
    have hne : other ≠ key := by
      rintro rfl
      exact hthere hfree
    refine ih (Context.get?_put_ne_none hthere) ?_
    rwa [Context.context?_putNested_of_ne hne]

/-- A context stays under its key if no attribute is copied there. -/
theorem context?_of_not_copies (h : p.Completes c d) (hkey : c.context? key = some e)
    (hcopies : ¬ p.Copies key) : d.context? key = some e := by
  induction h with
  | done c => exact hkey
  | note event _ ih => exact ih hkey hcopies
  | @copy p c d other text _ ih =>
    have hboth := not_or.mp hcopies
    refine ih ?_ hboth.2
    rwa [Context.context?_setScalar_of_ne hboth.1]
  | @scalar p c d other text site hfree _ ih =>
    have hne : other ≠ key := by
      rintro rfl
      rw [hkey] at hfree
      exact absurd hfree (by simp)
    refine ih ?_ hcopies
    rwa [Context.context?_setScalar_of_ne hne]
  | @nested inner p c d found other site hfree _ _ _ ih =>
    have hne : other ≠ key := by
      rintro rfl
      rw [Context.context?, hfree] at hkey
      exact absurd hkey (by simp)
    refine ih ?_ hcopies
    rwa [Context.context?_putNested_of_ne hne]

/-- A key that is there holds no context in the end if an attribute is copied under it. -/
theorem context?_of_copies (h : p.Completes c d) (hthere : c.get? key ≠ none)
    (hcopies : p.Copies key) : d.context? key = none := by
  induction h with
  | done c => exact hcopies.elim
  | note event _ ih => exact ih hthere hcopies
  | @copy p c d other text hrest ih =>
    have hstays : (c.setScalar other text).get? key ≠ none := Context.get?_put_ne_none hthere
    rcases hcopies with rfl | hlater
    · refine hrest.context?_of_text hstays ?_
      rw [Context.setScalar, Context.context?_put, if_pos rfl]
      rfl
    · exact ih hstays hlater
  | scalar site _ _ ih => exact ih (Context.get?_put_ne_none hthere) hcopies
  | nested site _ _ _ _ ih => exact ih (Context.get?_put_ne_none hthere) hcopies

/-! ### All constructs -/

/-- **The constructs of a plan are all in place in the end just if none is overwritten.** -/
theorem kept_iff (h : p.Completes c d) :
    (∀ construct ∈ p.constructs, d.at? construct.path = some construct.context) ↔
      ¬ p.Overwrites := by
  induction h with
  | done c => simp [constructs, Overwrites]
  | note event _ ih => exact ih
  | copy _ ih => exact ih
  | scalar site _ _ ih => exact ih
  | @nested inner p c d e key site hfree hinside hrest ihInside ihRest =>
    rw [constructs, Overwrites, not_or, not_or, ← and_assoc, List.forall_mem_append, ihRest,
      Construct.nest, List.forall_mem_cons, List.forall_mem_map, hinside.exec_eq.2]
    refine and_congr_left fun _ => ?_
    by_cases hcopies : p.Copies key
    · -- the copy takes the construct away for good
      have hlost : d.context? key = none := by
        refine hrest.context?_of_copies ?_ hcopies
        rw [Context.putNested, Context.get?_put, if_pos rfl]
        exact Option.some_ne_none _
      rw [Context.at?_cons_of_no_context? hlost]
      simp [hcopies]
    · -- the construct stays, and so what is in it has only its own copies to fear
      have hstays : d.context? key = some e :=
        hrest.context?_of_not_copies (Context.context?_putNested_self c key e) hcopies
      have hinner : (∀ construct ∈ inner.constructs,
          d.at? (construct.within key).path = some (construct.within key).context) ↔
          ¬ inner.Overwrites := by
        rw [← ihInside]
        refine forall₂_congr fun construct _ => ?_
        rw [Construct.within, Context.at?_cons_of_context? hstays]
      rw [hinner, Context.at?_cons_of_context? hstays]
      simp [hcopies, Context.at?]

/-- There are never more contexts in the end than those that were there and the constructs. -/
theorem nestedCount_le (h : p.Completes c d) :
    d.nestedCount ≤ c.nestedCount + p.constructs.length := by
  induction h with
  | done c => exact Nat.le_refl _
  | note event _ ih => exact ih
  | @copy p c d key text _ ih =>
    exact Nat.le_trans ih (Nat.add_le_add_right (c.nestedCount_setScalar_le key text) _)
  | scalar site hfree _ ih =>
    rw [Context.nestedCount_setScalar_of_free hfree] at ih
    exact ih
  | nested site hfree _ _ ihInside ihRest =>
    rw [Context.nestedCount_putNested hfree] at ihRest
    rw [Context.nestedCount] at ihInside
    rw [length_constructs_nested]
    omega

/-- There are just as many if none is overwritten. -/
theorem nestedCount_eq (h : p.Completes c d) (hkept : ¬ p.OverwritesOn c) :
    d.nestedCount = c.nestedCount + p.constructs.length := by
  induction h with
  | done c => rfl
  | note event _ ih => exact ih hkept
  | copy _ ih =>
    rw [overwritesOn_copy, not_or, Ne, Decidable.not_not] at hkept
    rw [ih hkept.2, Context.nestedCount_setScalar_of_free hkept.1]
    rfl
  | scalar site hfree _ ih =>
    rw [overwritesOn_scalar site hfree] at hkept
    rw [ih hkept, Context.nestedCount_setScalar_of_free hfree]
    rfl
  | nested site hfree _ _ ihInside ihRest =>
    rw [overwritesOn_nested site hfree, not_or, ← overwritesOn_empty] at hkept
    rw [ihRest hkept.2, Context.nestedCount_putNested hfree, ihInside hkept.1,
      length_constructs_nested, Context.nestedCount]
    omega

/-- There are fewer if one is overwritten. -/
theorem nestedCount_lt (h : p.Completes c d) (hlost : p.OverwritesOn c) :
    d.nestedCount < c.nestedCount + p.constructs.length := by
  induction h with
  | done c => exact absurd hlost (by simp [OverwritesOn, Overwrites, Copies])
  | note event _ ih => exact ih hlost
  | @copy p c d key text hrest ih =>
    rcases overwritesOn_copy.mp hlost with hkey | hlater
    · have htaken := Context.nestedCount_setScalar_of_taken hkey text
      exact Nat.lt_of_le_of_lt hrest.nestedCount_le (Nat.add_lt_add_right htaken _)
    · have hset := c.nestedCount_setScalar_le key text
      exact Nat.lt_of_lt_of_le (ih hlater) (Nat.add_le_add_right hset _)
  | scalar site hfree _ ih =>
    rw [Context.nestedCount_setScalar_of_free hfree] at ih
    exact ih ((overwritesOn_scalar site hfree).mp hlost)
  | nested site hfree hinside hrest ihInside ihRest =>
    have hinsideLe := hinside.nestedCount_le
    have hrestLe := hrest.nestedCount_le
    rw [Context.nestedCount_putNested hfree] at ihRest hrestLe
    rw [overwritesOn_empty] at ihInside
    rw [Context.nestedCount] at ihInside hinsideLe
    rw [length_constructs_nested]
    -- what is lost on one side of the sum is not made up for on the other
    rcases (overwritesOn_nested site hfree _).mp hlost with hinner | hlater
    · have hfewer := ihInside hinner
      omega
    · have hfewer := ihRest hlater
      omega

/-- **A plan that starts on nothing ends with as many contexts as it has constructs just if none is
overwritten.** -/
theorem nestedCount_eq_iff (h : p.Completes .empty d) :
    d.nestedCount = p.constructs.length ↔ ¬ p.Overwrites := by
  rw [← overwritesOn_empty]
  constructor
  · intro heq hlost
    have hfewer := h.nestedCount_lt hlost
    rw [Context.nestedCount] at hfewer
    omega
  · intro hkept
    have heq := h.nestedCount_eq hkept
    rwa [Context.nestedCount, Nat.zero_add] at heq

end Completes

end Plan

end SchemaFold
