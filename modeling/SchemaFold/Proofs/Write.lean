import SchemaFold.Proofs.Context.Put
import SchemaFold.Proofs.Run
/-!
The two writes that look at what is there, and the way into an element.

* `Options.replaces_of_reject`, `Options.replaces_of_lastWins`: what the policies allow;
* `Fold.writeScalar_of_free`, `Fold.writeScalar_of_taken`: a text of a rule is refused only by a
  nested context;
* `Fold.nest_of_free`, `Fold.nest_of_taken`: a new context is refused by anything under its key;
* `Fold.writeScalar_eq_report`, `Fold.nest_eq_under`: what both do when they are not refused;
* `Fold.enter_of_le`, `Fold.le_of_enter_ok`: an element is entered just if it is not too deep.
-/

namespace SchemaFold

/-- A warning that a construct has been replaced. -/
def Event.IsReplacement : Event → Prop
  | .scalarReplaces .. | .constructReplaced .. => True
  | _ => False

namespace Options

variable {options : Options}

theorem replaces_of_reject (h : options.duplicateKeys = .reject) : options.replaces = false := by
  rw [replaces, h]
  rfl

theorem replaces_of_lastWins (h : options.duplicateKeys = .lastWins) : options.replaces = true := by
  rw [replaces, h]
  rfl

end Options

end SchemaFold

namespace SchemaFold.Fold

variable {replaces : Bool} {c : Context} {key : String} {entry : String × String}

theorem writeScalar_of_free (h : c.context? entry.1 = none) (replaces : Bool) (site : Site) :
    writeScalar replaces site entry c = .done (c.setScalar entry.1 entry.2) := by
  rw [writeScalar, Context.setScalarChecked_of_free h]
  rfl

theorem writeScalar_of_taken (h : c.context? entry.1 ≠ none) (replaces : Bool) (site : Site) :
    writeScalar replaces site entry c =
      if replaces then .report [.scalarReplaces entry.1 site.location] (c.setScalar entry.1 entry.2)
      else .fail c (.duplicateKey entry.1 site.element site.location) := by
  rw [writeScalar, Context.setScalarChecked_of_taken h]
  cases replaces <;> rfl

/-- A text that is not refused is written. -/
theorem writeScalar_eq_report (h : replaces = true ∨ c.context? entry.1 = none) (site : Site) :
    ∃ events, writeScalar replaces site entry c = .report events (c.setScalar entry.1 entry.2) := by
  by_cases hfree : c.context? entry.1 = none
  · exact ⟨[], writeScalar_of_free hfree replaces site⟩
  · rw [writeScalar_of_taken hfree, if_pos (h.resolve_right hfree)]
    exact ⟨_, rfl⟩

theorem writeScalar_result_eq_ok {site : Site} :
    (writeScalar replaces site entry c).result = .ok () ↔
      replaces = true ∨ c.context? entry.1 = none := by
  constructor
  · intro h
    by_cases hfree : c.context? entry.1 = none
    · exact Or.inr hfree
    · rw [writeScalar_of_taken hfree] at h
      cases replaces with
      | true => exact Or.inl rfl
      | false => exact absurd h (by simp [Run.fail])
  · intro h
    obtain ⟨events, hevents⟩ := writeScalar_eq_report h site
    rw [hevents, Run.report]

/-- A text of a rule gives rise to a warning only where it replaces a construct. -/
theorem mem_log_writeScalar {site : Site} {event : Event}
    (h : event ∈ (writeScalar replaces site entry c).log) :
    replaces = true ∧ event.IsReplacement := by
  by_cases hfree : c.context? entry.1 = none
  · rw [writeScalar_of_free hfree] at h
    exact absurd h (by simp [Run.done])
  · rw [writeScalar_of_taken hfree] at h
    cases replaces with
    | true =>
      rw [if_pos rfl, Run.report, List.mem_singleton] at h
      exact ⟨rfl, h ▸ trivial⟩
    | false => exact absurd h (by simp [Run.fail])

theorem error_writeScalar {site : Site} {e : Error}
    (h : (writeScalar replaces site entry c).result = .error e) :
    replaces = false ∧ ∃ key element location, e = .duplicateKey key element location := by
  by_cases hroom : replaces = true ∨ c.context? entry.1 = none
  · rw [writeScalar_result_eq_ok.mpr hroom] at h
    exact absurd h (by simp)
  · rw [not_or, Bool.not_eq_true] at hroom
    rw [writeScalar_of_taken hroom.2, hroom.1] at h
    exact ⟨hroom.1, entry.1, site.element, site.location, by simpa [Run.fail] using h.symm⟩

theorem nest_of_free (h : c.get? key = none) (replaces : Bool) (site : Site)
    (fill : Context → Run) :
    nest replaces site key fill c = (fill .empty).under c key [] := by
  rw [nest, Context.admits_of_free h]

theorem nest_of_taken (h : c.get? key ≠ none) (replaces : Bool) (site : Site)
    (fill : Context → Run) :
    nest replaces site key fill c =
      if replaces then (fill .empty).under c key [.constructReplaced key site.location]
      else .fail c (.duplicateKey key site.element site.location) := by
  rw [nest, Context.admits_of_taken h]
  cases replaces <;> rfl

/-- A new context that is not refused is filled and put under its key. -/
theorem nest_eq_under (h : replaces = true ∨ c.get? key = none) (site : Site)
    (fill : Context → Run) :
    ∃ events, nest replaces site key fill c = (fill .empty).under c key events := by
  by_cases hfree : c.get? key = none
  · exact ⟨[], nest_of_free hfree replaces site fill⟩
  · rw [nest_of_taken hfree, if_pos (h.resolve_right hfree)]
    exact ⟨_, rfl⟩

/-- What would fill a new context counts only if there is room for the context. -/
theorem nest_congr {fill other : Context → Run} (site : Site)
    (h : replaces = true ∨ c.get? key = none → fill .empty = other .empty) :
    nest replaces site key fill c = nest replaces site key other c := by
  by_cases hfree : c.get? key = none
  · rw [nest_of_free hfree, nest_of_free hfree, h (Or.inr hfree)]
  · rw [nest_of_taken hfree, nest_of_taken hfree]
    cases replaces with
    | true => rw [h (Or.inl rfl)]
    | false => rfl

/-- A fold into a new context comes to its end only if there is room and the inside does so. -/
theorem nest_result_eq_ok {site : Site} {fill : Context → Run} :
    (nest replaces site key fill c).result = .ok () ↔
      (replaces = true ∨ c.get? key = none) ∧ (fill .empty).result = .ok () := by
  by_cases hroom : replaces = true ∨ c.get? key = none
  · obtain ⟨events, hevents⟩ := nest_eq_under hroom site fill
    rw [hevents, Run.under]
    exact ⟨fun h => ⟨hroom, h⟩, fun h => h.2⟩
  · rw [not_or, Bool.not_eq_true] at hroom
    rw [nest_of_taken hroom.2, hroom.1]
    simp [Run.fail, hroom.2]

/-- A new context gives rise to the events of its inside, and to a warning where it replaces
something. -/
theorem mem_log_nest {site : Site} {fill : Context → Run} {event : Event}
    (h : event ∈ (nest replaces site key fill c).log) :
    event ∈ (fill .empty).log ∨ replaces = true ∧ event.IsReplacement := by
  by_cases hfree : c.get? key = none
  · rw [nest_of_free hfree] at h
    exact Or.inl h
  · rw [nest_of_taken hfree] at h
    cases replaces with
    | true =>
      rw [if_pos rfl, Run.under, List.mem_append, List.mem_singleton] at h
      rcases h with rfl | hinner
      · exact Or.inr ⟨rfl, trivial⟩
      · exact Or.inl hinner
    | false => exact absurd h (by simp [Run.fail])

theorem error_nest {site : Site} {fill : Context → Run} {e : Error}
    (h : (nest replaces site key fill c).result = .error e) :
    (fill .empty).result = .error e ∨
      replaces = false ∧ ∃ key element location, e = .duplicateKey key element location := by
  by_cases hroom : replaces = true ∨ c.get? key = none
  · obtain ⟨events, hevents⟩ := nest_eq_under hroom site fill
    rw [hevents] at h
    exact Or.inl h
  · rw [not_or, Bool.not_eq_true] at hroom
    rw [nest_of_taken hroom.2, hroom.1] at h
    exact Or.inr ⟨hroom.1, key, site.element, site.location, by simpa [Run.fail] using h.symm⟩

/-! ### Entering an element -/

section
variable {options : Options} {depth : Nat} {attributes : List Xml.Attribute}
  {inside : Context → Run}

theorem enter_of_le (h : depth ≤ options.limits.depth) (ignored : List String)
    (attributes : List Xml.Attribute) (inside : Context → Run) (c : Context) :
    enter options ignored attributes depth inside c =
      inside (c.copyAttributes ignored attributes) := by
  rw [enter, Limits.checkDepth, if_neg (Nat.not_lt.mpr h)]

theorem le_of_enter_ok {ignored : List String}
    (h : (enter options ignored attributes depth inside c).result = .ok ()) :
    depth ≤ options.limits.depth := by
  refine Nat.not_lt.mp fun hover => ?_
  rw [enter, Limits.checkDepth, if_pos hover] at h
  exact absurd h (by simp [Run.fail])

end

end SchemaFold.Fold
