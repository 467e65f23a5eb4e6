import SchemaFold.Path.Select
/-!
Following steps one after the other.

* `Path.reach`: the places that steps lead to, if none of them leads to attributes;
* `Path.Query.follow_append`: steps after others go on from all places that these reach, in order;
* `Path.Query.follow_eq_map_reach`: steps that do not lead to attributes lead to places alone.
-/

namespace SchemaFold.Path

open Xml (Place)

variable {bindings : Bindings} {step : Step} {steps : List Step}

/-- The places that steps lead to, in order and with repetitions. -/
def reach (bindings : Bindings) : List Step → Place → List Place
  | [], place => [place]
  | step :: steps, place => (step.places bindings place).flatMap (reach bindings steps)

namespace Query

/-- But for a last step to attributes, a step leads to places from which the rest is followed. -/
theorem follow_cons (h : ¬ (steps = [] ∧ step.axis = .attribute)) (bindings : Bindings)
    (place : Place) :
    follow bindings (step :: steps) place =
      (step.places bindings place).flatMap (follow bindings steps) := by
  rw [follow]
  rintro test rfl hnil
  exact h ⟨hnil, rfl⟩

/-- **Steps after others go on from all places that these reach**, in order. -/
theorem follow_append (bindings : Bindings) (h : ∀ step ∈ steps, step.axis ≠ .attribute)
    (more : List Step) (place : Place) :
    follow bindings (steps ++ more) place =
      (reach bindings steps place).flatMap (follow bindings more) := by
  induction steps generalizing place with
  | nil => simp [reach]
  | cons step steps ih =>
    rw [List.forall_mem_cons] at h
    have hrest : follow bindings (steps ++ more) =
        fun place => (reach bindings steps place).flatMap (follow bindings more) :=
      funext (ih h.2)
    rw [List.cons_append, follow_cons (fun hlast => h.1 hlast.2), hrest, reach, List.flatMap_assoc]

theorem follow_eq_map_reach (h : ∀ step ∈ steps, step.axis ≠ .attribute) (place : Place) :
    follow bindings steps place = (reach bindings steps place).map .node := by
  have happend := follow_append bindings h [] place
  rw [List.append_nil] at happend
  rw [happend, List.map_eq_flatMap]
  rfl

/-- The step down leads to a place and all places below it. -/
theorem follow_descendantOrSelf (steps : List Step) (place : Place) :
    follow bindings (⟨.descendantOrSelf, .node⟩ :: steps) place =
      place.descendantsOrSelf.flatMap (follow bindings steps) := by
  rw [follow_cons (by simp)]
  have hall : Step.places bindings ⟨.descendantOrSelf, .node⟩ place = place.descendantsOrSelf :=
    List.filter_eq_self.mpr fun _ _ => rfl
  rw [hall]

end Query

/-- One step down leads to the children that pass its test. -/
theorem follow_child (bindings : Bindings) (test : NodeTest) (place : Place) :
    Query.follow bindings [⟨.child, test⟩] place =
      (place.children.filter (test.keepsNode bindings)).map .node := by
  rw [Query.follow_cons (by simp)]
  exact List.map_eq_flatMap.symm

end SchemaFold.Path
