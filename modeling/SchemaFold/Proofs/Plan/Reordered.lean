import SchemaFold.Proofs.Context.Reordered
import SchemaFold.Proofs.Plan.Congruence
import SchemaFold.Proofs.Plan.Strict
/-!
Plans whose nested contexts come in another order.

Where duplicate keys are rejected, two nested contexts that are written one after the other have
different keys, and so they may as well be written the other way round.

* `Plan.Reordered`: neighbouring nested contexts are exchanged, also inside others;
* `Plan.Reordered.completes`: such a plan comes to its end if the first one does, and leaves the
  same entries;
* `Plan.Completes.distinct`: no plan writes a key twice.
-/

namespace SchemaFold.Plan

/-- Plans that differ in the order of neighbouring nested contexts. -/
inductive Reordered : Plan → Plan → Prop
  | refl (p : Plan) : Reordered p p
  | append {p p' q q' : Plan} (h : Reordered p p') (h' : Reordered q q') :
      Reordered (p ++ q) (p' ++ q')
  | nested (site : Site) (key : String) {inner inner' rest rest' : Plan}
      (hinner : Reordered inner inner') (h : Reordered rest rest') :
      Reordered (.nested site key inner rest) (.nested site key inner' rest')
  | swap (site site' : Site) (key key' : String) (inner inner' rest : Plan) :
      Reordered (.nested site key inner (.nested site' key' inner' rest))
        (.nested site' key' inner' (.nested site key inner rest))
  | trans {p q r : Plan} (h : Reordered p q) (h' : Reordered q r) : Reordered p r

variable {p q inner rest : Plan} {site : Site} {key : String} {c d e : Context}

theorem Reordered.symm (h : p.Reordered q) : q.Reordered p := by
  induction h with
  | refl p => exact .refl p
  | append _ _ ih ih' => exact .append ih ih'
  | nested site key _ _ ihInner ih => exact .nested site key ihInner ih
  | swap site site' key key' inner inner' rest =>
    exact .swap site' site key' key inner' inner rest
  | trans _ _ ih ih' => exact .trans ih' ih

theorem Reordered.isCongruence : IsCongruence Reordered where
  refl := .refl
  append := .append
  nested site key _ _ _ _ hinner h := .nested site key hinner h

/-! ### What they leave -/

/-- The order of the entries that are there does not count. -/
theorem Completes.of_reordered (h : p.Completes c e) (hcontext : c.Reordered d) :
    ∃ f, p.Completes d f ∧ e.Reordered f := by
  induction h generalizing d with
  | done c => exact ⟨d, .done d, hcontext⟩
  | note event _ ih =>
    obtain ⟨f, hf, hsame⟩ := ih hcontext
    exact ⟨f, .note event hf, hsame⟩
  | @copy p c e key text _ ih =>
    obtain ⟨f, hf, hsame⟩ := ih (hcontext.put key (.scalar text))
    exact ⟨f, .copy hf, hsame⟩
  | @scalar p c e key text site hfree _ ih =>
    obtain ⟨f, hf, hsame⟩ := ih (hcontext.put key (.scalar text))
    exact ⟨f, .scalar site (hcontext.context?_eq_none hfree) hf, hsame⟩
  | @nested inner p c e found key site hfree hinside _ _ ih =>
    obtain ⟨f, hf, hsame⟩ := ih (hcontext.put key (.refl (.context found)))
    exact ⟨f, .nested site (hcontext.get?_eq_none hfree) hinside hf, hsame⟩

/-- Two nested contexts, one after the other, have different keys. -/
theorem Completes.of_nested_nested {site' : Site} {key' : String} {inner' : Plan}
    (h : (Plan.nested site key inner (.nested site' key' inner' rest)).Completes c e) :
    key ≠ key' ∧ c.get? key = none ∧ c.get? key' = none ∧
      ∃ found found', inner.Completes .empty found ∧ inner'.Completes .empty found' ∧
        rest.Completes ((c.putNested key found).putNested key' found') e := by
  cases h with
  | @nested _ _ _ _ found _ _ hfree hinside hrest =>
    cases hrest with
    | @nested _ _ _ _ found' _ _ hfree' hinside' hrest' =>
      rw [Context.putNested, Context.get?_put] at hfree'
      split at hfree'
      · exact absurd hfree' (by simp)
      · rename_i hne
        exact ⟨hne, hfree, hfree', found, found', hinside, hinside', hrest'⟩

/-- **A reordered plan comes to its end if the first one does**, and leaves the same entries in some
order. -/
theorem Reordered.completes (h : p.Reordered q) (hcontext : c.Reordered d)
    (hcompletes : p.Completes c e) : ∃ f, q.Completes d f ∧ e.Reordered f := by
  induction h generalizing c d e with
  | refl p => exact hcompletes.of_reordered hcontext
  | append _ _ ih ih' =>
    obtain ⟨middle, hp, hq⟩ := hcompletes.of_append
    obtain ⟨f, hf, hsame⟩ := ih hcontext hp
    obtain ⟨g, hg, hsame'⟩ := ih' hsame hq
    exact ⟨g, hf.append hg, hsame'⟩
  | nested site key _ _ ihInner ih =>
    cases hcompletes with
    | nested _ hfree hinside hrest =>
      obtain ⟨found, hfound, hinner⟩ := ihInner .empty hinside
      obtain ⟨f, hf, hsame⟩ := ih (hcontext.put key (.context hinner)) hrest
      exact ⟨f, .nested site (hcontext.get?_eq_none hfree) hfound hf, hsame⟩
  | swap site site' key key' inner inner' rest =>
    obtain ⟨hne, hfree, hfree', found, found', hinside, hinside', hrest⟩ :=
      hcompletes.of_nested_nested
    have hother : (d.putNested key' found').get? key = none := by
      rw [Context.putNested, Context.get?_put, if_neg hne.symm]
      exact hcontext.get?_eq_none hfree
    -- both orders write the same, and on `c` and `d` the same stands
    have hsame : ((c.putNested key found).putNested key' found').Reordered
        ((d.putNested key' found').putNested key found) :=
      (Context.reordered_put_put hne c _ _).trans
        ((hcontext.put key' (.refl _)).put key (.refl _))
    obtain ⟨f, hf, hresult⟩ := hrest.of_reordered hsame
    exact ⟨f, .nested site' (hcontext.get?_eq_none hfree') hinside'
      (.nested site hother hinside hf), hresult⟩
  | trans _ _ ih ih' =>
    obtain ⟨f, hf, hsame⟩ := ih (.refl c) hcompletes
    obtain ⟨g, hg, hsame'⟩ := ih' hcontext hf
    exact ⟨g, hg, hsame.trans hsame'⟩

/-- A plan keeps the keys of a context distinct. -/
theorem Completes.distinct (h : p.Completes c e) (hdistinct : c.Distinct) : e.Distinct := by
  induction h with
  | done c => exact hdistinct
  | note event _ ih => exact ih hdistinct
  | copy _ ih => exact ih (hdistinct.put _ trivial)
  | scalar site _ _ ih => exact ih (hdistinct.put _ trivial)
  | nested site _ _ _ ihInside ih => exact ih (hdistinct.put _ (ihInside trivial))

end SchemaFold.Plan
