import SchemaFold.Fold
import SchemaFold.Proofs.Context.Put
/-!
Entries that are written one after the other.

* `Context.putAll`: writes a list of entries in order;
* `Context.get?_putAll_of_last`: of several writes to one key the last one counts;
* `Context.keys_putAll`: the new keys come in the order in which they are first written;
* `Context.copied`, `Context.copyAttributes_eq_putAll`: attributes are copied in this way.
-/

namespace SchemaFold.Context

open Xml (Attribute)

/-- Writes entries in order. -/
def putAll (c : Context) : List (String × Value) → Context
  | [] => c
  | entry :: rest => (c.put entry.1 entry.2).putAll rest

theorem putAll_append (c : Context) (entries later : List (String × Value)) :
    c.putAll (entries ++ later) = (c.putAll entries).putAll later := by
  induction entries generalizing c with
  | nil => rfl
  | cons entry rest ih => exact ih _

/-- A key that is not written keeps its value. -/
theorem get?_putAll_of_notMem {entries : List (String × Value)} {key : String}
    (h : key ∉ entries.map Prod.fst) (c : Context) : (c.putAll entries).get? key = c.get? key := by
  induction entries generalizing c with
  | nil => rfl
  | cons entry rest ih =>
    rw [List.map_cons, List.mem_cons, not_or] at h
    rw [putAll, ih h.2, get?_put, if_neg (Ne.symm h.1)]

/-- **The last write to a key counts.** -/
theorem get?_putAll_of_last {later : List (String × Value)} {key : String}
    (h : key ∉ later.map Prod.fst) (c : Context) (earlier : List (String × Value)) (value : Value) :
    (c.putAll (earlier ++ (key, value) :: later)).get? key = some value := by
  rw [putAll_append, putAll, get?_putAll_of_notMem h, get?_put, if_pos rfl]

/-- **New keys come in the order in which they are first written**, after those that are there. -/
theorem keys_putAll (c : Context) (entries : List (String × Value)) :
    (c.putAll entries).keys = c.keys ++ ((entries.map Prod.fst).removeAll c.keys).eraseDups := by
  induction entries generalizing c with
  | nil => simp [putAll, List.removeAll]
  | cons entry rest ih =>
    rw [putAll, ih, keys_put, List.map_cons]
    by_cases hkey : entry.1 ∈ c.keys
    · simp [hkey, List.removeAll]
    · -- the key takes its place at the end, and is left out of what comes later
      have hlater : (rest.map Prod.fst).removeAll (c.keys ++ [entry.1]) =
          ((rest.map Prod.fst).removeAll c.keys).filter (fun key => !key == entry.1) := by
        rw [List.removeAll, List.removeAll, List.filter_filter]
        refine List.filter_congr fun key _ => ?_
        by_cases hfirst : key = entry.1
        · simp [hfirst]
        · simp [hfirst]
      rw [if_neg hkey, hlater, List.append_assoc]
      simp [hkey, List.removeAll, List.eraseDups_cons]

theorem keys_putAll_empty (entries : List (String × Value)) :
    (Context.empty.putAll entries).keys = (entries.map Prod.fst).eraseDups := by
  have hall : (entries.map Prod.fst).removeAll Context.empty.keys = entries.map Prod.fst :=
    List.filter_eq_self.mpr fun _ _ => rfl
  rw [keys_putAll, hall, keys_empty, List.nil_append]

theorem nodup_keys_putAll {c : Context} (h : c.keys.Nodup) (entries : List (String × Value)) :
    (c.putAll entries).keys.Nodup := by
  induction entries generalizing c with
  | nil => exact h
  | cons entry rest ih => exact ih (nodup_keys_put h)

/-! ### Attributes -/

/-- What is copied of attributes: the texts of those that are not ignored, under their local
names. -/
def copied (ignored : List String) (attributes : List Attribute) : List (String × Value) :=
  (attributes.filter (fun a => !ignored.contains a.name.localName)).map
    (fun a => (a.name.localName, .scalar a.value))

theorem copyAttributes_eq_putAll (ignored : List String) (attributes : List Attribute)
    (c : Context) : c.copyAttributes ignored attributes = c.putAll (copied ignored attributes) := by
  induction attributes generalizing c with
  | nil => rfl
  | cons a rest ih =>
    rw [copyAttributes, ih]
    by_cases hignored : a.name.localName ∈ ignored
    · simp [copied, hignored]
    · simp [copied, hignored, putAll, setScalar]

end SchemaFold.Context
