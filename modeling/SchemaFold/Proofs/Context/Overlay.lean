import SchemaFold.Proofs.Context.Put
/-!
Overlays: the entries of one context written onto another.

* `Context.overlay`: the entries of the second context, written one after the other onto the first;
* `Context.keys_overlay`: the keys of the first in their order, then the new ones in theirs;
* `Context.get?_overlay`: the value of the second where it has one, else that of the first;
* `Context.overlay_put`: a write to the second context is a write to the overlay;
* `Context.overlay_overlay_self`: a second overlay changes nothing.

An entry is replaced as a whole: contexts under the same key are not merged. The second context
should have no key twice, as is the case with every context that is written by `put`.
-/

namespace SchemaFold.Context

variable {base top : Context} {key : String} {value : Value}

/-- The first context with the entries of the second written onto it. -/
def overlay : Context → Context → Context
  | base, .empty => base
  | base, .scalar key text rest => (base.put key (.scalar text)).overlay rest
  | base, .nested key inner rest => (base.put key (.context inner)).overlay rest

@[simp] theorem overlay_empty (base : Context) : base.overlay .empty = base := rfl

@[simp] theorem overlay_cons (base : Context) (key : String) (value : Value) (rest : Context) :
    base.overlay (cons key value rest) = (base.put key value).overlay rest := by
  cases value <;> rfl

/-- An entry that is not written again stays in front. -/
theorem cons_overlay (h : key ∉ top.keys) (value : Value) (base : Context) :
    (cons key value base).overlay top = cons key value (base.overlay top) := by
  induction top using levelInduction generalizing base with
  | empty => rfl
  | cons first found rest ih =>
    rw [keys_cons, List.mem_cons, not_or] at h
    rw [overlay_cons, put_cons, if_neg h.1, ih h.2, overlay_cons]

/-- Entries that are written onto nothing are as they were. -/
theorem empty_overlay (h : top.keys.Nodup) : Context.empty.overlay top = top := by
  induction top using levelInduction with
  | empty => rfl
  | cons first found rest ih =>
    rw [keys_cons, List.nodup_cons] at h
    rw [overlay_cons, put_empty, cons_overlay h.1, ih h.2]

theorem get?_overlay (htop : top.keys.Nodup) (base : Context) (key : String) :
    (base.overlay top).get? key = (top.get? key).or (base.get? key) := by
  induction top using levelInduction generalizing base with
  | empty => simp
  | cons first value rest ih =>
    rw [keys_cons, List.nodup_cons] at htop
    obtain ⟨hfirst, hrest⟩ := htop
    rw [overlay_cons, ih hrest, get?_put, get?_cons]
    by_cases h : first = key
    · -- the key is not written again
      subst h
      rw [get?_eq_none_iff.mpr hfirst]
      simp
    · simp [h]

theorem keys_overlay (htop : top.keys.Nodup) (base : Context) :
    (base.overlay top).keys = base.keys ++ top.keys.filter (· ∉ base.keys) := by
  induction top using levelInduction generalizing base with
  | empty => simp
  | cons first value rest ih =>
    rw [keys_cons, List.nodup_cons] at htop
    obtain ⟨hfirst, hrest⟩ := htop
    rw [overlay_cons, ih hrest, keys_put, keys_cons]
    by_cases h : first ∈ base.keys
    · simp [h]
    · -- the rest does not have the new key, so it may be left out of the test
      have hfilter : rest.keys.filter (· ∉ base.keys ++ [first]) =
          rest.keys.filter (· ∉ base.keys) := by
        refine List.filter_congr fun other ho => ?_
        have hne : other ≠ first := fun heq => hfirst (heq ▸ ho)
        simp [hne]
      rw [if_neg h, hfilter]
      simp [h]

/-- Entries under other keys may be written before or after a key that has its place. -/
theorem put_overlay (hkey : key ∈ base.keys) (htop : key ∉ top.keys) (value : Value) :
    (base.put key value).overlay top = (base.overlay top).put key value := by
  induction top using levelInduction generalizing base with
  | empty => rfl
  | cons first found rest ih =>
    rw [keys_cons, List.mem_cons, not_or] at htop
    rw [overlay_cons, overlay_cons, put_put_comm htop.1 hkey]
    exact ih (mem_keys_put.mpr (Or.inr hkey)) htop.2

theorem overlay_put (htop : top.keys.Nodup) (base : Context) (key : String) (value : Value) :
    base.overlay (top.put key value) = (base.overlay top).put key value := by
  induction top using levelInduction generalizing base with
  | empty => simp
  | cons first found rest ih =>
    rw [keys_cons, List.nodup_cons] at htop
    obtain ⟨hfirst, hrest⟩ := htop
    rw [put_cons]
    by_cases h : first = key
    · subst h
      -- the old value gives the key its place, and the new one may come after the rest
      have hplace : first ∈ (base.put first found).keys := mem_keys_put.mpr (Or.inl rfl)
      rw [if_pos rfl, overlay_cons, overlay_cons, ← put_overlay hplace hfirst, put_put_self]
    · rw [if_neg h, overlay_cons, overlay_cons]
      exact ih hrest (base.put first found)

/-- An overlay whose entries are all there already changes nothing. -/
theorem overlay_eq_self (h : ∀ key value, top.get? key = some value → base.get? key = some value)
    (htop : top.keys.Nodup) : base.overlay top = base := by
  induction top using levelInduction with
  | empty => rfl
  | cons first found rest ih =>
    rw [keys_cons, List.nodup_cons] at htop
    obtain ⟨hfirst, hrest⟩ := htop
    have hput : base.put first found = base := put_eq_self (h first found (by simp))
    rw [overlay_cons, hput]
    refine ih (fun key value hget => h key value ?_) hrest
    have hne : first ≠ key := fun heq => hfirst (heq ▸ mem_keys_of_get? hget)
    rw [get?_cons, if_neg hne, hget]

theorem overlay_overlay_self (htop : top.keys.Nodup) (base : Context) :
    (base.overlay top).overlay top = base.overlay top := by
  refine overlay_eq_self (fun key value hget => ?_) htop
  rw [get?_overlay htop, hget, Option.some_or]

end SchemaFold.Context
