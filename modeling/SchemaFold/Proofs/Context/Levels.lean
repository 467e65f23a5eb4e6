import SchemaFold.Proofs.Context.Put
/-!
How deep contexts are nested in one another.

* `Context.levels`: the number of contexts nested in one another, the outermost counted;
* `Context.levels_put`: a write adds at most the levels of what is written.
-/

namespace SchemaFold

/-- The number of contexts nested in one another, this one counted. -/
def Context.levels : Context → Nat
  | .empty => 1
  | .scalar _ _ rest => rest.levels
  | .nested _ inner rest => max (inner.levels + 1) rest.levels

/-- A text has no levels of its own. -/
def Value.levels : Value → Nat
  | .scalar _ => 0
  | .context inner => inner.levels

namespace Context

theorem one_le_levels (c : Context) : 1 ≤ c.levels := by
  induction c with
  | empty => exact Nat.le_refl 1
  | scalar key text rest ih => exact ih
  | nested key inner rest _ ih => exact Nat.le_trans ih (Nat.le_max_right ..)

theorem levels_cons (key : String) (value : Value) (rest : Context) :
    (cons key value rest).levels = max (value.levels + 1) rest.levels := by
  cases value with
  | scalar text =>
    have hone := rest.one_le_levels
    show rest.levels = max 1 rest.levels
    omega
  | context inner => rfl

/-- **A write adds at most the levels of what is written.** -/
theorem levels_put (c : Context) (key : String) (value : Value) :
    (c.put key value).levels ≤ max c.levels (value.levels + 1) := by
  induction c using levelInduction with
  | empty =>
    rw [put_empty, levels_cons]
    exact Nat.le_of_eq (Nat.max_comm ..)
  | cons first found rest ih =>
    rw [put_cons, levels_cons]
    split
    · rw [levels_cons]
      omega
    · rw [levels_cons]
      omega

theorem levels_setScalar (c : Context) (key text : String) :
    (c.setScalar key text).levels ≤ c.levels := by
  have hone := c.one_le_levels
  have hput : (c.setScalar key text).levels ≤ max c.levels 1 := c.levels_put key (.scalar text)
  omega

theorem levels_putNested (c : Context) (key : String) (inner : Context) :
    (c.putNested key inner).levels ≤ max c.levels (inner.levels + 1) :=
  c.levels_put key (.context inner)

end Context

end SchemaFold
