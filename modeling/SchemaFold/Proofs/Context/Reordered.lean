import SchemaFold.Proofs.Context.Put
/-!
Contexts with the same entries in another order.

* `Context.Reordered`: the same entries at every level, in any order;
* `Context.Reordered.get?`: under every key stands the same, up to order;
* `Context.Reordered.put`, `Context.reordered_put_put`: writing to such contexts, and writing to two
  keys in either order;
* `Context.Distinct`: no level has a key twice;
* `Context.Reordered.equivalent`: contexts of this kind are found to be the same when compared.
-/

namespace SchemaFold

/-! ### Other orders -/

/-- The same entries at every level, in an order that comes from exchanging neighbours. -/
inductive Context.Reordered : Context → Context → Prop
  | empty : Reordered .empty .empty
  | scalar (key text : String) {rest rest' : Context} (h : Reordered rest rest') :
      Reordered (.scalar key text rest) (.scalar key text rest')
  | nested (key : String) {inner inner' rest rest' : Context} (hinner : Reordered inner inner')
      (h : Reordered rest rest') : Reordered (.nested key inner rest) (.nested key inner' rest')
  | swap {key other : String} (hne : key ≠ other) (value value' : Value) (rest : Context) :
      Reordered (cons key value (cons other value' rest)) (cons other value' (cons key value rest))
  | trans {c d e : Context} (h : Reordered c d) (h' : Reordered d e) : Reordered c e

/-- The same text, or contexts with the same entries. -/
inductive Value.Reordered : Value → Value → Prop
  | scalar (text : String) : Reordered (.scalar text) (.scalar text)
  | context {inner inner' : Context} (h : inner.Reordered inner') :
      Reordered (.context inner) (.context inner')

theorem Context.Reordered.refl (c : Context) : c.Reordered c := by
  induction c with
  | empty => exact .empty
  | scalar key text rest ih => exact .scalar key text ih
  | nested key inner rest ihInner ih => exact .nested key ihInner ih

theorem Context.Reordered.symm {c d : Context} (h : c.Reordered d) : d.Reordered c := by
  induction h with
  | empty => exact .empty
  | scalar key text _ ih => exact .scalar key text ih
  | nested key _ _ ihInner ih => exact .nested key ihInner ih
  | swap hne value value' rest => exact .swap hne.symm value' value rest
  | trans _ _ ih ih' => exact .trans ih' ih

theorem Value.Reordered.refl (value : Value) : value.Reordered value := by
  cases value with
  | scalar text => exact .scalar text
  | context inner => exact .context (.refl inner)

theorem Value.Reordered.trans {value value' value'' : Value} (h : value.Reordered value')
    (h' : value'.Reordered value'') : value.Reordered value'' := by
  cases h with
  | scalar text => exact h'
  | context hinner =>
    cases h' with
    | context hinner' => exact .context (hinner.trans hinner')

theorem Value.Reordered.rel_trans {left middle right : Option Value}
    (h : Option.Rel Value.Reordered left middle) (h' : Option.Rel Value.Reordered middle right) :
    Option.Rel Value.Reordered left right := by
  cases h with
  | none => exact h'
  | some hvalue =>
    cases h' with
    | some hvalue' => exact .some (hvalue.trans hvalue')

namespace Context

variable {c d : Context} {key other : String} {value value' : Value}

theorem Reordered.cons (key : String) (hvalue : value.Reordered value') (h : c.Reordered d) :
    (cons key value c).Reordered (cons key value' d) := by
  cases hvalue with
  | scalar text => exact .scalar key text h
  | context hinner => exact .nested key hinner h

/-! ### Reading -/

/-- Under every key stands the same, up to order. -/
theorem Reordered.get? (h : c.Reordered d) (key : String) :
    Option.Rel Value.Reordered (c.get? key) (d.get? key) := by
  induction h with
  | empty => exact .none
  | scalar first text _ ih =>
    rw [Context.get?, Context.get?]
    split
    · exact .some (.scalar text)
    · exact ih
  | nested first hinner _ _ ih =>
    rw [Context.get?, Context.get?]
    split
    · exact .some (.context hinner)
    · exact ih
  | @swap first second hne value value' rest =>
    have hsame : (Context.cons first value (Context.cons second value' rest)).get? key =
        (Context.cons second value' (Context.cons first value rest)).get? key := by
      by_cases hfirst : first = key
      · subst hfirst
        simp [hne.symm]
      · simp [hfirst]
    rw [hsame]
    rcases (Context.cons second value' (Context.cons first value rest)).get? key with _ | found
    · exact .none
    · exact .some (.refl found)
  | trans _ _ ih ih' => exact Value.Reordered.rel_trans ih ih'

theorem Reordered.exists_get? (h : c.Reordered d) (hfound : c.get? key = some value) :
    ∃ value', d.get? key = some value' ∧ value.Reordered value' := by
  have hrel := h.get? key
  rw [hfound] at hrel
  rcases hd : d.get? key with _ | value'
  · rw [hd] at hrel
    cases hrel
  · rw [hd] at hrel
    cases hrel with
    | some hvalue => exact ⟨value', rfl, hvalue⟩

theorem Reordered.get?_eq_none (h : c.Reordered d) (hfree : c.get? key = none) :
    d.get? key = none := by
  rcases hd : d.get? key with _ | value
  · rfl
  · obtain ⟨_, hc, _⟩ := h.symm.exists_get? hd
    exact absurd (hfree.symm.trans hc) (by simp)

theorem Reordered.context?_eq_none (h : c.Reordered d) (hfree : c.context? key = none) :
    d.context? key = none := by
  rw [context?_eq_none_iff] at hfree ⊢
  intro inner hd
  obtain ⟨_, hc, hvalue⟩ := h.symm.exists_get? hd
  cases hvalue with
  | context hinner => exact hfree _ hc

/-! ### Writing -/

theorem reordered_put (c : Context) (key : String) (h : value.Reordered value') :
    (c.put key value).Reordered (c.put key value') := by
  induction c using levelInduction with
  | empty => exact .cons key h .empty
  | cons first found rest ih =>
    rw [put_cons, put_cons]
    split
    · exact .cons key h (.refl rest)
    · exact .cons first (.refl found) ih

/-- **Contexts that differ in order still do so after a write.** -/
theorem Reordered.put (h : c.Reordered d) (key : String) (hvalue : value.Reordered value') :
    (c.put key value).Reordered (d.put key value') := by
  induction h generalizing value value' with
  | empty => exact .cons key hvalue .empty
  | scalar first text hrest ih =>
    rw [Context.put, Context.put]
    split
    · exact .cons key hvalue hrest
    · exact .scalar first text (ih hvalue)
  | nested first hinner hrest _ ih =>
    rw [Context.put, Context.put]
    split
    · exact .cons key hvalue hrest
    · exact .nested first hinner (ih hvalue)
  | @swap first second hne left right rest =>
    rw [put_cons, put_cons, put_cons, put_cons]
    by_cases hfirst : first = key
    · subst hfirst
      rw [if_pos rfl, if_neg hne.symm, if_pos rfl]
      exact (Reordered.cons first hvalue (.refl _)).trans (.swap hne value' right rest)
    · rw [if_neg hfirst, if_neg hfirst]
      by_cases hsecond : second = key
      · subst hsecond
        rw [if_pos rfl, if_pos rfl]
        exact (Reordered.swap hne left value rest).trans (.cons second hvalue (.refl _))
      · rw [if_neg hsecond, if_neg hsecond]
        refine (Reordered.swap hne left right _).trans ?_
        exact .cons second (.refl right) (.cons first (.refl left) (reordered_put rest key hvalue))
  | trans _ _ ih ih' => exact (ih (.refl value)).trans (ih' hvalue)

/-- **Writes to two keys may be exchanged.** -/
theorem reordered_put_put (hne : key ≠ other) (c : Context) (value value' : Value) :
    ((c.put key value).put other value').Reordered ((c.put other value').put key value) := by
  induction c using levelInduction with
  | empty =>
    rw [put_empty, put_empty, put_cons, put_cons, if_neg hne, if_neg hne.symm, put_empty, put_empty]
    exact .swap hne value value' .empty
  | cons first found rest ih =>
    by_cases hkey : key ∈ (Context.cons first found rest).keys
    · rw [put_put_comm hne hkey]
      exact .refl _
    · rw [keys_cons, List.mem_cons, not_or] at hkey
      have hfirst : first ≠ key := Ne.symm hkey.1
      rw [put_cons, if_neg hfirst, put_cons, put_cons]
      by_cases hother : first = other
      · rw [if_pos hother, if_pos hother, put_cons, if_neg hne.symm]
        exact .refl _
      · rw [if_neg hother, if_neg hother, put_cons, if_neg hfirst]
        exact .cons first (.refl found) ih

/-! ### Distinct keys -/

/-- No level has a key twice. -/
def Distinct : Context → Prop
  | .empty => True
  | .scalar key _ rest => key ∉ rest.keys ∧ rest.Distinct
  | .nested key inner rest => key ∉ rest.keys ∧ inner.Distinct ∧ rest.Distinct

end Context

/-- A context with distinct keys, if it is one. -/
def Value.Distinct : Value → Prop
  | .scalar _ => True
  | .context inner => inner.Distinct

namespace Context

variable {c d : Context} {key : String} {value : Value}

theorem distinct_cons {rest : Context} :
    (cons key value rest).Distinct ↔ key ∉ rest.keys ∧ value.Distinct ∧ rest.Distinct := by
  cases value with
  | scalar text => simp [cons, Distinct, Value.Distinct]
  | context inner => exact Iff.rfl

theorem Distinct.nodup_keys (h : c.Distinct) : c.keys.Nodup := by
  induction c using levelInduction with
  | empty => exact List.nodup_nil
  | cons first found rest ih =>
    obtain ⟨hfirst, -, hrest⟩ := distinct_cons.mp h
    rw [keys_cons]
    exact List.nodup_cons.mpr ⟨hfirst, ih hrest⟩

theorem Distinct.put (h : c.Distinct) (key : String) (hvalue : value.Distinct) :
    (c.put key value).Distinct := by
  induction c using levelInduction with
  | empty => exact distinct_cons.mpr ⟨List.not_mem_nil, hvalue, h⟩
  | cons first found rest ih =>
    obtain ⟨hfirst, hfound, hrest⟩ := distinct_cons.mp h
    rw [put_cons]
    split
    · rename_i heq
      subst heq
      exact distinct_cons.mpr ⟨hfirst, hvalue, hrest⟩
    · rename_i hne
      refine distinct_cons.mpr ⟨fun hmem => ?_, hfound, ih hrest⟩
      exact (mem_keys_put.mp hmem).elim hne hfirst

/-! ### Comparing -/

theorem Reordered.size_eq (h : c.Reordered d) : c.size = d.size := by
  have hcons : ∀ (key : String) (value : Value) (rest : Context),
      (Context.cons key value rest).size = rest.size + 1 := by
    intro key value rest
    cases value <;> rfl
  induction h with
  | empty => rfl
  | scalar key text _ ih => exact congrArg (· + 1) ih
  | nested key _ _ _ ih => exact congrArg (· + 1) ih
  | swap _ value value' rest => rw [hcons, hcons, hcons, hcons]
  | trans _ _ ih ih' => exact ih.trans ih'

/-- A later entry is found, since its key is another one. -/
theorem get?_cons_of_later {rest : Context} {later : String} {found : Value} (value : Value)
    (hkey : key ∉ rest.keys) (hlater : rest.get? later = some found) :
    (cons key value rest).get? later = some found := by
  have hne : key ≠ later := fun heq => hkey (heq ▸ mem_keys_of_get? hlater)
  rw [get?_cons, if_neg hne, hlater]

/-- What stands under the keys of a context is found in another one if it stands there too. -/
theorem entriesIn_of_rel (hdistinct : c.Distinct)
    (h : ∀ key value, c.get? key = some value →
      ∃ value', d.get? key = some value' ∧ value.Reordered value') :
    entriesIn d c = true := by
  induction c generalizing d with
  | empty => rfl
  | scalar key text rest ih =>
    obtain ⟨hkey, hrest⟩ := hdistinct
    obtain ⟨value', hfound, hvalue⟩ := h key (.scalar text) (if_pos rfl)
    cases hvalue
    rw [entriesIn, hfound, ih hrest]
    · simp
    · intro later value hlater
      exact h later value (get?_cons_of_later (.scalar text) hkey hlater)
  | nested key inner rest ihInner ih =>
    obtain ⟨hkey, hinner, hrest⟩ := hdistinct
    obtain ⟨value', hfound, hvalue⟩ := h key (.context inner) (if_pos rfl)
    obtain _ | @⟨_, inner', hsame⟩ := hvalue
    have hentries : entriesIn inner' inner = true :=
      ihInner hinner fun _ _ hlater => hsame.exists_get? hlater
    rw [entriesIn, context?_eq_some_iff.mpr hfound, ih hrest]
    · simp [hsame.size_eq, hentries]
    · intro later value hlater
      exact h later value (get?_cons_of_later (.context inner) hkey hlater)

/-- **Contexts that differ in order are the same when compared.** -/
theorem Reordered.equivalent (h : c.Reordered d) (hdistinct : c.Distinct) :
    c.equivalent d = true := by
  have hentries : entriesIn d c = true :=
    entriesIn_of_rel hdistinct fun _ _ hfound => h.exists_get? hfound
  rw [Context.equivalent, h.size_eq, hentries]
  simp

end Context

end SchemaFold
