import SchemaFold.Proofs.Context.Nested
import SchemaFold.Proofs.Context.Reordered
import SchemaFold.Proofs.Invariant
import SchemaFold.Proofs.Sample
/-!
Contexts only grow, whatever the hooks of a table do.

No fold removes a key or moves it, and none writes a key twice at any level. Where duplicate keys
are rejected, what stands under a key that is there may become a text, but never another context,
and nothing is added to the contexts that are there.

* `Context.Grows`: one context has come from another in this way;
* `Fold.invariant_grows`: single writes let a context grow, and so does one after another;
* `Xml.Place.fold_grows`: so does every fold, also one that ends in an error;
* `Xml.Place.keys_of_fold`: the statement, with all that it says about keys and constructs.
-/

namespace SchemaFold

open Xml (Attribute Content Place)

namespace Context

variable {replaces : Bool} {c d e : Context} {key : String} {value : Value}

/-- The keys of a context come first in another one, which has no key twice if the first has none.
Unless constructs may be replaced, a context that stands under a key of the first is not new. -/
structure Grows (replaces : Bool) (c d : Context) : Prop where
  keys : c.keys <+: d.keys
  distinct : c.Distinct → d.Distinct
  constructs : replaces = false → ∀ key inner, c.get? key ≠ none → d.context? key = some inner →
    c.context? key = some inner

theorem Grows.refl (replaces : Bool) (c : Context) : c.Grows replaces c :=
  ⟨List.prefix_rfl, id, fun _ _ _ _ h => h⟩

/-- A key that has its place keeps it. -/
theorem Grows.get?_ne_none (h : c.Grows replaces d) (hkey : c.get? key ≠ none) :
    d.get? key ≠ none := by
  rw [get?_ne_none_iff] at hkey ⊢
  exact h.keys.subset hkey

theorem Grows.trans (h : c.Grows replaces d) (h' : d.Grows replaces e) : c.Grows replaces e where
  keys := h.keys.trans h'.keys
  distinct := h'.distinct ∘ h.distinct
  constructs hreplaces key inner hkey hinner :=
    h.constructs hreplaces key inner hkey
      (h'.constructs hreplaces key inner (h.get?_ne_none hkey) hinner)

theorem keys_prefix_put (c : Context) (key : String) (value : Value) :
    c.keys <+: (c.put key value).keys := by
  rw [keys_put]
  split
  · exact List.prefix_rfl
  · exact List.prefix_append ..

/-- A context grows in one run after another if it does in both. -/
theorem Grows.andThen {run : Run} {next : Context → Run} (h : c.Grows replaces run.context)
    (hnext : run.result = .ok () → run.context.Grows replaces (next run.context).context) :
    c.Grows replaces (run.andThen next).context := by
  rcases hresult : run.result with e | _
  · rwa [Run.andThen_of_error hresult]
  · rw [Run.andThen_of_ok hresult]
    exact h.trans (hnext hresult)

/-- A text may take the place of anything. -/
theorem grows_setScalar (replaces : Bool) (c : Context) (key text : String) :
    c.Grows replaces (c.setScalar key text) where
  keys := keys_prefix_put c key _
  distinct h := h.put key trivial
  constructs _ other inner _ hinner := by
    rw [setScalar, context?_put] at hinner
    split at hinner
    · exact absurd hinner (by simp [Value.context?])
    · exact hinner

/-- A context takes the place of something only if this may be replaced. -/
theorem grows_putNested {inner : Context} (hroom : replaces = true ∨ c.get? key = none)
    (hinner : inner.Distinct) : c.Grows replaces (c.putNested key inner) where
  keys := keys_prefix_put c key _
  distinct h := h.put key hinner
  constructs hreplaces other found hother hfound := by
    have hfree : c.get? key = none := hroom.resolve_left (by simp [hreplaces])
    have hne : key ≠ other := by
      rintro rfl
      exact hother hfree
    rwa [context?_putNested_of_ne hne] at hfound

end Context

/-! ### Folds -/

/-- **Single writes let a context grow.** -/
theorem Fold.invariant_grows (options : Options) :
    Fold.Invariant options (fun _ c run => c.Grows options.replaces run.context) where
  stay _ c _ _ := .refl _ c
  write _ c key text _ := Context.grows_setScalar _ c key text
  put _ hroom _ hrun := Context.grows_putNested hroom (hrun.distinct trivial)
  andThen hfirst hnext := hfirst.andThen hnext
  outward h := h

namespace Xml.Place

variable {table : RuleTable} {options : Options} {ignored : List String} {place : Place}

theorem fold_grows (c : Context) :
    c.Grows options.replaces (place.fold table options ignored c).context :=
  (place.fold_holds (Fold.invariant_grows options) table ignored).holds c

/-- **A fold never removes or moves a key**, whatever the hooks of its table do and however it ends.
From a context without double keys at any level it leaves one of that kind, with the old keys in
front in their order. Where duplicate keys are rejected, a key that has a context before and
afterwards has the same one, with nothing added to it. -/
theorem keys_of_fold (table : RuleTable) (options : Options) (ignored : List String)
    (place : Place) (c : Context) (h : c.Distinct) :
    let run := place.fold table options ignored c
    run.context.Distinct ∧
      c.keys <+: run.context.keys ∧
      (options.duplicateKeys = .reject → ∀ key before after,
        c.context? key = some before → run.context.context? key = some after → after = before) := by
  intro run
  have hgrows : c.Grows options.replaces run.context := fold_grows c
  refine ⟨hgrows.distinct h, hgrows.keys, fun hreject key before after hbefore hafter => ?_⟩
  have hreplaces : options.replaces = false := by
    rw [Options.replaces, hreject]
    rfl
  have hthere : c.get? key ≠ none := by
    rw [Context.context?_eq_some_iff.mp hbefore]
    simp
  have hold := hgrows.constructs hreplaces key after hthere hafter
  exact Option.some.inj (hold.symm.trans hbefore)

end Xml.Place

namespace Sample

/-- A table with hooks that look around: elements go into contexts under their local names, or under
another key if that is there, and once an element is done its local name is written down. -/
def looking : RuleTable :=
  ⟨fun _ => some
    ⟨some fun _ c place =>
        .done (.nested (if c.contains place.localName then "again" else place.localName)),
      some fun _ _ place => .done [("last", place.localName)], []⟩⟩

/-- Three elements that want the same context. -/
def threeElements : Place :=
  schema
    (element "element" 2 [("name", "A")] .empty
      (element "element" 3 [("name", "B")] .empty
        (element "element" 4 [("name", "C")] .empty .empty)))

/-- A context with a construct and a text. -/
def occupied : Context := .nested "old" (.scalar "a" "1" .empty) (.scalar "t" "2" .empty)

/-- What the table makes of them, on top of that construct and text. -/
def crowded : Run := threeElements.fold looking (options .reject .reject) [] occupied

/-- Of three elements the last has no room. What the others have written stays, after the construct
and the text that were there before. -/
theorem keys_of_fold_of_looking :
    occupied.Distinct ∧ crowded.result = .error (.duplicateKey "again" "element" ⟨4, 1⟩) ∧
      crowded.context.Distinct ∧ occupied.keys <+: crowded.context.keys ∧
      crowded.context.keys = ["old", "t", "element", "last", "again"] ∧
      crowded.context.context? "old" = some (.scalar "a" "1" .empty) := by
  have hstart : occupied.Distinct := ⟨by decide, ⟨by decide, trivial⟩, by decide, trivial⟩
  obtain ⟨hdistinct, hkeys, hsame⟩ :=
    threeElements.keys_of_fold looking (options .reject .reject) [] occupied hstart
  have herror : crowded.result = .error (.duplicateKey "again" "element" ⟨4, 1⟩) := by rfl
  have hlist : crowded.context.keys = ["old", "t", "element", "last", "again"] := by decide +kernel
  have hthere : (crowded.context.context? "old").isSome = true := by decide +kernel
  obtain ⟨after, hafter⟩ := Option.isSome_iff_exists.mp hthere
  have hold : after = .scalar "a" "1" .empty := hsame rfl "old" _ after rfl hafter
  exact ⟨hstart, herror, hdistinct, hkeys, hlist, hafter.trans (congrArg some hold)⟩

end Sample

end SchemaFold
