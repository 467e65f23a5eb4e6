import SchemaFold.Context.Basic
/-!
Writing to a context and reading from it.

* `Context.get?_put`: after a write the key has the new value, and every other key its old one;
* `Context.keys_put`: a write leaves the keys in their order, with a new key at the end;
* `Context.put_put_self`, `Context.put_put_comm`: two writes to one key, and writes to two keys;
* `Context.setScalarChecked_of_free` and its companions: what a checked write does.

Most statements are about one level, so they go by induction over its entries, whatever these hold
(`Context.levelInduction`).
-/

namespace SchemaFold.Context

variable {c : Context} {key other text : String} {value : Value}

/-! ### One level -/

/-- Induction over the entries of one level. -/
@[elab_as_elim]
theorem levelInduction {motive : Context → Prop} (empty : motive .empty)
    (cons : ∀ key value rest, motive rest → motive (cons key value rest)) :
    ∀ c, motive c
  | .empty => empty
  | .scalar key text rest => cons key (.scalar text) rest (levelInduction empty cons rest)
  | .nested key inner rest => cons key (.context inner) rest (levelInduction empty cons rest)

@[simp] theorem get?_empty (key : String) : Context.empty.get? key = none := rfl

@[simp] theorem keys_empty : Context.empty.keys = [] := rfl

@[simp] theorem put_empty (key : String) (value : Value) :
    Context.empty.put key value = cons key value .empty := rfl

@[simp] theorem get?_cons (key : String) (value : Value) (rest : Context) (other : String) :
    (cons key value rest).get? other = if key = other then some value else rest.get? other := by
  cases value <;> rfl

@[simp] theorem keys_cons (key : String) (value : Value) (rest : Context) :
    (cons key value rest).keys = key :: rest.keys := by
  cases value <;> rfl

@[simp] theorem put_cons (key : String) (value : Value) (rest : Context) (other : String)
    (written : Value) :
    (cons key value rest).put other written =
      if key = other then cons other written rest else cons key value (rest.put other written) := by
  cases value <;> rfl

/-! ### Reading -/

/-- The keys of a context are those that have a value. -/
theorem get?_eq_none_iff : c.get? key = none ↔ key ∉ c.keys := by
  induction c using levelInduction with
  | empty => simp
  | cons first value rest ih =>
    by_cases h : first = key
    · simp [h]
    · simp [h, ih, Ne.symm h]

theorem get?_ne_none_iff : c.get? key ≠ none ↔ key ∈ c.keys := by
  rw [Ne, get?_eq_none_iff, Decidable.not_not]

theorem mem_keys_of_get? (h : c.get? key = some value) : key ∈ c.keys := by
  by_cases hkey : key ∈ c.keys
  · exact hkey
  · rw [get?_eq_none_iff.mpr hkey] at h
    exact absurd h (by simp)

/-- No context under a key: nothing is there, or a text. -/
theorem context?_eq_none_iff :
    c.context? key = none ↔ ∀ inner, c.get? key ≠ some (.context inner) := by
  rw [context?]
  rcases h : c.get? key with _ | ⟨text⟩ | ⟨inner⟩
  · simp
  · simp [Value.context?]
  · simp [Value.context?]

theorem context?_eq_some_iff {inner : Context} :
    c.context? key = some inner ↔ c.get? key = some (.context inner) := by
  rw [context?]
  rcases h : c.get? key with _ | ⟨text⟩ | ⟨found⟩
  · simp
  · simp [Value.context?]
  · simp [Value.context?]

/-! ### Writing -/

theorem get?_put (c : Context) (key : String) (value : Value) (other : String) :
    (c.put key value).get? other = if key = other then some value else c.get? other := by
  induction c using levelInduction with
  | empty => simp
  | cons first found rest ih =>
    by_cases h : first = key
    · subst h
      by_cases ho : first = other
      · simp [ho]
      · simp [ho]
    · by_cases ho : first = other
      · subst ho
        simp [h, Ne.symm h]
      · simp [h, ho, ih]

/-- A key that is there keeps its place, and a new one comes last. -/
theorem keys_put (c : Context) (key : String) (value : Value) :
    (c.put key value).keys = if key ∈ c.keys then c.keys else c.keys ++ [key] := by
  induction c using levelInduction with
  | empty => simp
  | cons first found rest ih =>
    by_cases h : first = key
    · simp [h]
    · by_cases hrest : key ∈ rest.keys
      · simp [h, ih, hrest]
      · simp [h, Ne.symm h, ih, hrest]

theorem mem_keys_put : other ∈ (c.put key value).keys ↔ other = key ∨ other ∈ c.keys := by
  rw [keys_put]
  by_cases h : key ∈ c.keys
  · rw [if_pos h]
    exact ⟨Or.inr, fun ho => ho.elim (fun heq => heq ▸ h) id⟩
  · rw [if_neg h, List.mem_append, List.mem_singleton]
    exact Or.comm

/-- No key is written twice. -/
theorem nodup_keys_put (h : c.keys.Nodup) : (c.put key value).keys.Nodup := by
  rw [keys_put]
  by_cases hkey : key ∈ c.keys
  · rwa [if_pos hkey]
  · rw [if_neg hkey, List.nodup_append]
    refine ⟨h, by simp, ?_⟩
    intro other ho last hlast
    rw [List.mem_singleton.mp hlast]
    exact fun heq => hkey (heq ▸ ho)

/-- Of two writes to one key the later counts. -/
theorem put_put_self (c : Context) (key : String) (value later : Value) :
    (c.put key value).put key later = c.put key later := by
  induction c using levelInduction with
  | empty => simp
  | cons first found rest ih =>
    by_cases h : first = key
    · simp [h]
    · simp [h, ih]

/-- Writes to two keys may be exchanged if one of the keys already has its place. -/
theorem put_put_comm {left right : Value} (hne : key ≠ other) (hkey : key ∈ c.keys) :
    (c.put key left).put other right = (c.put other right).put key left := by
  induction c using levelInduction with
  | empty => exact absurd hkey (by simp)
  | cons first found rest ih =>
    by_cases h : first = key
    · subst h
      simp [hne]
    · have hrest : key ∈ rest.keys := by
        rw [keys_cons, List.mem_cons] at hkey
        exact hkey.resolve_left (Ne.symm h)
      by_cases ho : first = other
      · subst ho
        simp [h]
      · simp [h, ho, ih hrest]

/-- Writing what is there changes nothing. -/
theorem put_eq_self (h : c.get? key = some value) : c.put key value = c := by
  induction c using levelInduction with
  | empty => exact absurd h (by simp)
  | cons first found rest ih =>
    by_cases hfirst : first = key
    · subst hfirst
      rw [get?_cons, if_pos rfl, Option.some_inj] at h
      simp [h]
    · rw [get?_cons, if_neg hfirst] at h
      simp [hfirst, ih h]

/-! ### Checked writes -/

/-- A text is written where no context is. -/
theorem setScalarChecked_of_free (h : c.context? key = none) (text : String) (replace : Bool) :
    c.setScalarChecked key text replace = (.set, c.put key (.scalar text)) := by
  rw [setScalarChecked]
  split
  · rename_i inner hget
    exact absurd hget (context?_eq_none_iff.mp h inner)
  · rfl

theorem setScalarChecked_of_taken (h : c.context? key ≠ none) (text : String) (replace : Bool) :
    c.setScalarChecked key text replace =
      if replace then (.replaced, c.put key (.scalar text)) else (.occupied, c) := by
  obtain ⟨inner, hinner⟩ := Option.ne_none_iff_exists'.mp h
  rw [setScalarChecked, context?_eq_some_iff.mp hinner]

/-- A context is put where nothing is. -/
theorem admits_of_free (h : c.get? key = none) (replace : Bool) :
    c.admits key replace = .inserted := by
  simp [admits, contains, h]

theorem admits_of_taken (h : c.get? key ≠ none) (replace : Bool) :
    c.admits key replace = if replace then .replaced else .occupied := by
  obtain ⟨value, hvalue⟩ := Option.ne_none_iff_exists'.mp h
  simp [admits, contains, hvalue]

end SchemaFold.Context
