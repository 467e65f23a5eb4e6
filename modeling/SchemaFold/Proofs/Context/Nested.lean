import SchemaFold.Proofs.Context.Put
/-!
The contexts inside a context, at all levels.

* `Context.at?`: the context that a path of keys leads to;
* `Context.nestedCount`: how many contexts there are inside;
* `Context.nestedCount_put`: a write takes away what was under its key and brings its own.
-/

namespace SchemaFold

/-- The context that a path of keys leads to. -/
def Context.at? : List String → Context → Option Context
  | [], c => some c
  | key :: path, c => (c.context? key).bind (at? path)

/-- The number of contexts inside, at all levels. -/
def Context.nestedCount : Context → Nat
  | .empty => 0
  | .scalar _ _ rest => rest.nestedCount
  | .nested _ inner rest => inner.nestedCount + 1 + rest.nestedCount

/-- A value is one context more than there are in it, if it is one. -/
def Value.nestedCount : Value → Nat
  | .scalar _ => 0
  | .context inner => inner.nestedCount + 1

namespace Context

variable {c : Context} {key other text : String}

theorem at?_cons_of_context? {inner : Context} (h : c.context? key = some inner)
    (path : List String) : c.at? (key :: path) = inner.at? path := by
  rw [at?, h, Option.bind_some]

theorem at?_cons_of_no_context? (h : c.context? key = none) (path : List String) :
    c.at? (key :: path) = none := by
  rw [at?, h, Option.bind_none]

theorem context?_put (c : Context) (key : String) (value : Value) (other : String) :
    (c.put key value).context? other =
      if key = other then value.context? else c.context? other := by
  rw [context?, context?, get?_put]
  split
  · rfl
  · rfl

/-- A key that is there stays there. -/
theorem get?_put_ne_none {value : Value} (h : c.get? key ≠ none) :
    (c.put other value).get? key ≠ none := by
  rw [get?_put]
  split
  · exact Option.some_ne_none value
  · exact h

/-- No context comes from a text. -/
theorem context?_setScalar_eq_none (h : c.context? key = none) :
    (c.setScalar other text).context? key = none := by
  rw [setScalar, context?_put]
  split
  · rfl
  · exact h

theorem context?_setScalar_of_ne (h : key ≠ other) :
    (c.setScalar key text).context? other = c.context? other := by
  rw [setScalar, context?_put, if_neg h]

theorem context?_putNested_of_ne {inner : Context} (h : key ≠ other) :
    (c.putNested key inner).context? other = c.context? other := by
  rw [putNested, context?_put, if_neg h]

@[simp] theorem context?_putNested_self (c : Context) (key : String) (inner : Context) :
    (c.putNested key inner).context? key = some inner := by
  rw [putNested, context?_put, if_pos rfl]
  rfl

@[simp] theorem nestedCount_cons (key : String) (value : Value) (rest : Context) :
    (cons key value rest).nestedCount = value.nestedCount + rest.nestedCount := by
  cases value with
  | scalar text => exact (Nat.zero_add _).symm
  | context inner => rfl

/-- **What a write takes away and what it brings.** -/
theorem nestedCount_put (c : Context) (key : String) (value : Value) :
    (c.put key value).nestedCount + ((c.get? key).elim 0 Value.nestedCount) =
      c.nestedCount + value.nestedCount := by
  induction c using levelInduction with
  | empty =>
    rw [put_empty, nestedCount_cons, get?_empty]
    exact Nat.add_comm _ _
  | cons first found rest ih =>
    by_cases h : first = key
    · subst h
      rw [put_cons, get?_cons, if_pos rfl, if_pos rfl, nestedCount_cons, nestedCount_cons,
        Option.elim_some]
      omega
    · rw [put_cons, get?_cons, if_neg h, if_neg h, nestedCount_cons, nestedCount_cons]
      omega

/-- A text that is not in the way of a context leaves all contexts. -/
theorem nestedCount_setScalar_of_free (h : c.context? key = none) (text : String) :
    (c.setScalar key text).nestedCount = c.nestedCount := by
  have hput := nestedCount_put c key (.scalar text)
  rcases hget : c.get? key with _ | ⟨found⟩ | ⟨inner⟩
  · rw [hget] at hput
    exact hput
  · rw [hget] at hput
    exact hput
  · exact absurd hget (context?_eq_none_iff.mp h inner)

/-- A text that takes the place of a context takes it away. -/
theorem nestedCount_setScalar_of_taken (h : c.context? key ≠ none) (text : String) :
    (c.setScalar key text).nestedCount < c.nestedCount := by
  obtain ⟨inner, hinner⟩ := Option.ne_none_iff_exists'.mp h
  have hput := nestedCount_put c key (.scalar text)
  rw [context?_eq_some_iff.mp hinner] at hput
  simp only [Option.elim_some, Value.nestedCount] at hput
  rw [setScalar]
  omega

theorem nestedCount_setScalar_le (c : Context) (key text : String) :
    (c.setScalar key text).nestedCount ≤ c.nestedCount := by
  by_cases h : c.context? key = none
  · exact Nat.le_of_eq (nestedCount_setScalar_of_free h text)
  · exact Nat.le_of_lt (nestedCount_setScalar_of_taken h text)

/-- A context under a new key is one more, with those inside it. -/
theorem nestedCount_putNested (h : c.get? key = none) (inner : Context) :
    (c.putNested key inner).nestedCount = c.nestedCount + (inner.nestedCount + 1) := by
  have hput := nestedCount_put c key (.context inner)
  rw [h] at hput
  exact hput

end Context

end SchemaFold
