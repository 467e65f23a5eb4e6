import SchemaFold.Proofs.Path.Following
import SchemaFold.Proofs.Sample
import SchemaFold.Proofs.Xml.Order
/-!
Order and repetitions of what a path leads to.

* `Path.Match.key`, `Path.Match.Precedes`: where a match is in a document, and document order for
  nodes and attributes;
* `Path.Apart`, `Path.InOrder`, `Path.OnOneLevel`: places of which no two are the same, places in
  document order, and such places all at one depth;
* `Path.Apart.after_step`, `Path.OnOneLevel.after_step`, `Path.OnOneLevel.inOrder_down`: what one
  step keeps of this;
* `Path.Query.select_distinct_and_ordered`: what a path without steps up and with at most one step
  down leads to.

As long as a path goes from children to children the places are at one depth, so none of them is
below another. The step down is to disjoint parts of the document then. After it some places are
below others, and a step to their children keeps them apart, but not in order.
-/

namespace SchemaFold.Path

open Xml (Attribute Place)

/-! ### Document order of matches -/

namespace Match

/-- Where a match is in a document. The attributes of an element come after the element and before
all that is below it. -/
def key : Match → List Nat × Nat
  | .node place => (place.index, 0)
  | .attribute owner position _ => (owner.index, position + 1)

/-- One match is before another in document order. -/
def Precedes (first second : Match) : Prop :=
  Prod.Lex (List.Lex (· < ·)) (· < ·) first.key second.key

theorem Precedes.key_ne {first second : Match} (h : first.Precedes second) :
    first.key ≠ second.key := by
  intro heq
  rcases Prod.lex_def.mp h with hindex | ⟨_, hposition⟩
  · have hne : first.key.1 ≠ second.key.1 :=
      List.Lex.to_ne (List.Lex.imp (fun _ _ => Nat.ne_of_lt) _ _ hindex)
    exact hne (congrArg Prod.fst heq)
  · exact Nat.ne_of_lt hposition (congrArg Prod.snd heq)

/-- What is in strict order has no repetitions. -/
theorem nodup_key_of_pairwise {found : List Match} (h : found.Pairwise Precedes) :
    (found.map key).Nodup := by
  rw [List.nodup_iff_pairwise_ne, List.pairwise_map]
  exact h.imp Precedes.key_ne

end Match

/-! ### Places -/

/-- No two places are at the same place of the document. -/
def Apart (places : List Place) : Prop :=
  places.Pairwise (fun place other => place.index ≠ other.index)

/-- Places in document order. -/
def InOrder (places : List Place) : Prop := places.Pairwise Place.Precedes

/-- Places in document order that are all at one depth. -/
structure OnOneLevel (places : List Place) : Prop where
  inOrder : InOrder places
  level : ∀ place ∈ places, ∀ other ∈ places, place.index.length = other.index.length

variable {bindings : Bindings} {step : Step} {steps : List Step} {places kept : List Place}

theorem InOrder.apart (h : InOrder places) : Apart places := h.imp Place.Precedes.index_ne

theorem OnOneLevel.sublist (h : OnOneLevel places) (hkept : kept.Sublist places) :
    OnOneLevel kept where
  inOrder := h.inOrder.sublist hkept
  level place hplace other hother :=
    h.level place (hkept.subset hplace) other (hkept.subset hother)

theorem onOneLevel_singleton (place : Place) : OnOneLevel [place] where
  inOrder := List.pairwise_singleton _ _
  level := by simp

/-! ### One step -/

/-- A step from some places keeps of what its axis leads to what passes its test. -/
theorem flatMap_places_sublist (bindings : Bindings) (step : Step) (places : List Place) :
    (places.flatMap (step.places bindings)).Sublist
      (places.flatMap (Step.axisPlaces step.axis)) := by
  have hfilter : places.flatMap (step.places bindings) =
      (places.flatMap (Step.axisPlaces step.axis)).filter (step.test.keepsNode bindings) := by
    rw [List.filter_flatMap]
    rfl
  rw [hfilter]
  exact List.filter_sublist

/-- A step to where one is, or to no place at all, keeps some of the places. -/
theorem sublist_of_self_or_attribute (bindings : Bindings) (places : List Place)
    (haxis : step.axis = .self ∨ step.axis = .attribute) :
    (places.flatMap (step.places bindings)).Sublist places := by
  have hsublist := flatMap_places_sublist bindings step places
  rcases haxis with haxis | haxis
  · have hsame : places.flatMap (Step.axisPlaces .self) = places := List.flatMap_singleton' places
    rw [haxis, hsame] at hsublist
    exact hsublist
  · have hnone : places.flatMap (Step.axisPlaces .attribute) = [] :=
      List.flatMap_eq_nil_iff.mpr fun _ _ => rfl
    rw [haxis, hnone] at hsublist
    exact hsublist.trans (List.nil_sublist places)

/-- A step that goes neither up nor down keeps some of the places, or some of their children. -/
theorem sublist_or_sublist_children (bindings : Bindings) (places : List Place)
    (hparent : step.axis ≠ .parent) (hdown : step.axis ≠ .descendantOrSelf) :
    (places.flatMap (step.places bindings)).Sublist places ∨
      (places.flatMap (step.places bindings)).Sublist (places.flatMap Place.children) := by
  match haxis : step.axis with
  | .child =>
    have hsublist := flatMap_places_sublist bindings step places
    rw [haxis] at hsublist
    exact Or.inr hsublist
  | .attribute => exact Or.inl (sublist_of_self_or_attribute bindings places (Or.inr haxis))
  | .descendantOrSelf => exact absurd haxis hdown
  | .self => exact Or.inl (sublist_of_self_or_attribute bindings places (Or.inl haxis))
  | .parent => exact absurd haxis hparent

theorem Apart.children (h : Apart places) : Apart (places.flatMap Place.children) := by
  rw [Apart, List.pairwise_flatMap]
  refine ⟨fun place _ => (Place.pairwise_childrenFrom place 0 place.inside).imp
    Place.Precedes.index_ne, h.imp ?_⟩
  intro place other hne child hchild next hnext heq
  obtain ⟨number, hchild⟩ := Place.index_of_mem_children hchild
  obtain ⟨later, hnext⟩ := Place.index_of_mem_children hnext
  -- the way to a child without its last turn is the way to its parent
  rw [hchild, hnext] at heq
  exact hne (List.append_inj_left' heq rfl)

theorem OnOneLevel.children (h : OnOneLevel places) :
    OnOneLevel (places.flatMap Place.children) where
  inOrder := by
    rw [InOrder, List.pairwise_flatMap]
    refine ⟨fun place _ => Place.pairwise_childrenFrom place 0 place.inside, ?_⟩
    refine List.Pairwise.imp_of_mem ?_ h.inOrder
    intro place other hplace hother hprecedes child hchild next hnext
    obtain ⟨number, hchild⟩ := Place.index_of_mem_children hchild
    obtain ⟨later, hnext⟩ := Place.index_of_mem_children hnext
    exact hprecedes.of_level (h.level place hplace other hother) hchild hnext
  level := by
    intro child hchild next hnext
    obtain ⟨place, hplace, hchild⟩ := List.mem_flatMap.mp hchild
    obtain ⟨other, hother, hnext⟩ := List.mem_flatMap.mp hnext
    obtain ⟨number, hchild⟩ := Place.index_of_mem_children hchild
    obtain ⟨later, hnext⟩ := Place.index_of_mem_children hnext
    rw [hchild, hnext, List.length_append, List.length_append,
      h.level place hplace other hother]
    rfl

/-- **A step that goes neither up nor down keeps places apart.** -/
theorem Apart.after_step (h : Apart places) (hparent : step.axis ≠ .parent)
    (hdown : step.axis ≠ .descendantOrSelf) :
    Apart (places.flatMap (step.places bindings)) := by
  rcases sublist_or_sublist_children bindings places hparent hdown with hkept | hkept
  · exact List.Pairwise.sublist hkept h
  · exact h.children.sublist hkept

/-- **A step that goes neither up nor down leads from one level to another.** -/
theorem OnOneLevel.after_step (h : OnOneLevel places) (hparent : step.axis ≠ .parent)
    (hdown : step.axis ≠ .descendantOrSelf) :
    OnOneLevel (places.flatMap (step.places bindings)) := by
  rcases sublist_or_sublist_children bindings places hparent hdown with hkept | hkept
  · exact h.sublist hkept
  · exact h.children.sublist hkept

/-- **A step down from one level leads to places in document order.** -/
theorem OnOneLevel.inOrder_down (h : OnOneLevel places) (bindings : Bindings)
    (haxis : step.axis = .descendantOrSelf) :
    InOrder (places.flatMap (step.places bindings)) := by
  have hsublist := flatMap_places_sublist bindings step places
  rw [haxis] at hsublist
  refine List.Pairwise.sublist hsublist ?_
  rw [List.pairwise_flatMap]
  refine ⟨fun place _ => place.pairwise_descendantsOrSelf, ?_⟩
  refine List.Pairwise.imp_of_mem ?_ h.inOrder
  intro place other hplace hother hprecedes node hnode next hnext
  obtain ⟨more, hnode⟩ := Place.index_of_mem_descendantsOrSelf hnode
  obtain ⟨rest, hnext⟩ := Place.index_of_mem_descendantsOrSelf hnext
  exact hprecedes.of_level (h.level place hplace other hother) hnode hnext

/-! ### Ends of paths -/

/-- What is found at a place belongs to it and is in order. -/
structure EndsAt (ends : Place → List Match) : Prop where
  owner : ∀ place, ∀ found ∈ ends place, found.key.1 = place.index
  inOrder : ∀ place, (ends place).Pairwise Match.Precedes

theorem endsAt_node (bindings : Bindings) : EndsAt (Query.follow bindings []) where
  owner place found h := by
    rw [Query.follow, List.mem_singleton] at h
    rw [h]
    rfl
  inOrder place := List.pairwise_singleton _ _

theorem pairwise_zipIdx (attributes : List Attribute) :
    attributes.zipIdx.Pairwise (fun a b => a.2 < b.2) := by
  have hnumbers : (attributes.zipIdx.map Prod.snd).Pairwise (· < ·) := by
    rw [List.zipIdx_map_snd]
    exact List.pairwise_lt_range'
  exact List.pairwise_map.mp hnumbers

theorem endsAt_attributes (bindings : Bindings) (step : Step) :
    EndsAt (step.attributes bindings) where
  owner place found h := by
    obtain ⟨a, _, rfl⟩ := List.mem_map.mp h
    rfl
  inOrder place := by
    rw [Step.attributes, List.pairwise_map]
    refine List.Pairwise.filter _ ((pairwise_zipIdx place.attributes).imp fun hlt => ?_)
    exact Prod.Lex.right _ (Nat.succ_lt_succ hlt)

namespace EndsAt

variable {ends : Place → List Match}

/-- What is found at places that are apart is so too. -/
theorem nodup_key (hends : EndsAt ends) (h : Apart places) :
    ((places.flatMap ends).map Match.key).Nodup := by
  rw [List.nodup_iff_pairwise_ne, List.pairwise_map, List.pairwise_flatMap]
  refine ⟨fun place _ => (hends.inOrder place).imp Match.Precedes.key_ne, h.imp ?_⟩
  intro place other hne found hfound next hnext heq
  rw [← hends.owner place found hfound, ← hends.owner other next hnext, heq] at hne
  exact hne rfl

/-- What is found at places in order is so too. -/
theorem pairwise (hends : EndsAt ends) (h : InOrder places) :
    (places.flatMap ends).Pairwise Match.Precedes := by
  rw [List.pairwise_flatMap]
  refine ⟨fun place _ => hends.inOrder place, h.imp ?_⟩
  intro place other hprecedes found hfound next hnext
  refine Prod.lex_def.mpr (Or.inl ?_)
  rw [hends.owner place found hfound, hends.owner other next hnext]
  exact hprecedes

end EndsAt

/-! ### Whole paths -/

namespace Query

/-- A path from many places ends at them, or goes on from where its first step leads to from
these. -/
theorem flatMap_follow (bindings : Bindings) (steps : List Step) (places : List Place) :
    EndsAt (follow bindings steps) ∨
      ∃ step rest, steps = step :: rest ∧
        places.flatMap (follow bindings steps) =
          (places.flatMap (step.places bindings)).flatMap (follow bindings rest) := by
  cases steps with
  | nil => exact Or.inl (endsAt_node bindings)
  | cons step rest =>
    by_cases hlast : rest = [] ∧ step.axis = .attribute
    · obtain ⟨rfl, haxis⟩ := hlast
      obtain ⟨axis, test⟩ := step
      obtain rfl : axis = .attribute := haxis
      exact Or.inl (endsAt_attributes bindings ⟨.attribute, test⟩)
    · refine Or.inr ⟨step, rest, rfl, ?_⟩
      rw [funext (follow_cons hlast bindings), List.flatMap_assoc]

/-- From places that are apart **a path that goes neither up nor down leads to nothing twice**. -/
theorem nodup_key_of_apart (hsteps : ∀ step ∈ steps, step.axis ≠ .parent)
    (hdown : ∀ step ∈ steps, step.axis ≠ .descendantOrSelf) (h : Apart places) :
    ((places.flatMap (follow bindings steps)).map Match.key).Nodup := by
  induction steps generalizing places with
  | nil => exact (endsAt_node bindings).nodup_key h
  | cons step rest ih =>
    rw [List.forall_mem_cons] at hsteps hdown
    rcases flatMap_follow bindings (step :: rest) places with hends | ⟨_, _, hcons, hfollow⟩
    · exact hends.nodup_key h
    · cases hcons
      rw [hfollow]
      exact ih hsteps.2 hdown.2 (h.after_step hsteps.1 hdown.1)

/-- From places in order **a path that stays there leads to what is in order**. -/
theorem pairwise_of_inOrder
    (hsteps : ∀ step ∈ steps, step.axis = .self ∨ step.axis = .attribute) (h : InOrder places) :
    (places.flatMap (follow bindings steps)).Pairwise Match.Precedes := by
  induction steps generalizing places with
  | nil => exact (endsAt_node bindings).pairwise h
  | cons step rest ih =>
    rw [List.forall_mem_cons] at hsteps
    rcases flatMap_follow bindings (step :: rest) places with hends | ⟨_, _, hcons, hfollow⟩
    · exact hends.pairwise h
    · cases hcons
      rw [hfollow]
      exact ih hsteps.2 (List.Pairwise.sublist
        (sublist_of_self_or_attribute bindings places hsteps.1) h)

/-- No step to children comes after a step down. -/
def EndsDown (steps : List Step) : Prop :=
  ∀ before down after, steps = before ++ down :: after → down.axis = .descendantOrSelf →
    ∀ step ∈ after, step.axis ≠ .child

theorem EndsDown.tail (h : EndsDown (step :: steps)) : EndsDown steps := by
  intro before down after hsteps
  refine h (step :: before) down after ?_
  rw [hsteps, List.cons_append]

/-- **A path from one level**, with steps down at one point only, leads to nothing twice, and to
what is in order unless it goes on to children from there. -/
theorem distinct_and_ordered_of_onOneLevel (hsteps : ∀ step ∈ steps, step.axis ≠ .parent)
    (honce : steps.countP (fun step => step.axis = .descendantOrSelf) ≤ 1) (bindings : Bindings)
    (h : OnOneLevel places) :
    ((places.flatMap (follow bindings steps)).map Match.key).Nodup ∧
      (EndsDown steps → (places.flatMap (follow bindings steps)).Pairwise Match.Precedes) := by
  induction steps generalizing places with
  | nil =>
    have hends := (endsAt_node bindings).pairwise h.inOrder
    exact ⟨Match.nodup_key_of_pairwise hends, fun _ => hends⟩
  | cons step rest ih =>
    rw [List.forall_mem_cons] at hsteps
    rcases flatMap_follow bindings (step :: rest) places with hends | ⟨_, _, hcons, hfollow⟩
    · have hends := hends.pairwise h.inOrder
      exact ⟨Match.nodup_key_of_pairwise hends, fun _ => hends⟩
    · cases hcons
      rw [hfollow]
      by_cases hdown : step.axis = .descendantOrSelf
      · -- this is the step down, and there is no other
        rw [List.countP_cons_of_pos (by simpa using hdown)] at honce
        have hnone : ∀ later ∈ rest, later.axis ≠ .descendantOrSelf := by
          have hzero : rest.countP (fun step => step.axis = .descendantOrSelf) = 0 := by omega
          simpa using List.countP_eq_zero.mp hzero
        have hinOrder := h.inOrder_down bindings hdown
        refine ⟨nodup_key_of_apart hsteps.2 hnone hinOrder.apart, fun hends => ?_⟩
        refine pairwise_of_inOrder (fun later hlater => ?_) hinOrder
        match haxis : later.axis with
        | .child => exact absurd haxis (hends [] step rest rfl hdown later hlater)
        | .attribute => exact Or.inr rfl
        | .descendantOrSelf => exact absurd haxis (hnone later hlater)
        | .self => exact Or.inl rfl
        | .parent => exact absurd haxis (hsteps.2 later hlater)
      · rw [List.countP_cons_of_neg (by simpa using hdown)] at honce
        obtain ⟨hdistinct, hordered⟩ := ih hsteps.2 honce (h.after_step hsteps.1 hdown)
        exact ⟨hdistinct, fun hends => hordered hends.tail⟩

/-- The same from a single place. -/
theorem follow_distinct_and_ordered (hsteps : ∀ step ∈ steps, step.axis ≠ .parent)
    (honce : steps.countP (fun step => step.axis = .descendantOrSelf) ≤ 1) (bindings : Bindings)
    (place : Place) :
    ((follow bindings steps place).map Match.key).Nodup ∧
      (EndsDown steps → (follow bindings steps place).Pairwise Match.Precedes) := by
  have hfollow := distinct_and_ordered_of_onOneLevel hsteps honce bindings
    (onOneLevel_singleton place)
  rw [List.flatMap_singleton] at hfollow
  exact hfollow

/-- **What a path leads to.** A path without steps up and with at most one step down leads to no
node and to no attribute twice. If it does not go on to children after the step down, in particular
if there is no such step, it leads to what it does in document order. -/
theorem select_distinct_and_ordered (query : Query)
    (hparent : ∀ step ∈ query.steps, step.axis ≠ .parent)
    (honce : query.steps.countP (fun step => step.axis = .descendantOrSelf) ≤ 1)
    (bindings : Bindings) (place : Place) :
    ((query.select bindings place).map Match.key).Nodup ∧
      ((∀ before down after, query.steps = before ++ down :: after →
          down.axis = .descendantOrSelf → ∀ step ∈ after, step.axis ≠ .child) →
        (query.select bindings place).Pairwise Match.Precedes) :=
  follow_distinct_and_ordered hparent honce bindings _

end Query

end SchemaFold.Path

namespace SchemaFold.Sample

open SchemaFold.Path in
/-- All names in a schema come in document order. All elements come once each, but those in the type
come last. -/
theorem select_distinct_and_ordered_of_nested :
    let down : Step := ⟨.descendantOrSelf, .node⟩
    let names : Query := ⟨"//@name", true, [down, ⟨.attribute, .name none "name"⟩]⟩
    let elements : Query := ⟨"//*", true, [down, ⟨.child, .any⟩]⟩
    let place := schema
      (element "complexType" 2 [("name", "T")] (element "sequence" 3 [] .empty .empty)
        (element "element" 4 [("name", "a")] .empty .empty))
    (∀ step ∈ names.steps, step.axis ≠ .parent) ∧
      names.steps.countP (fun step => step.axis = .descendantOrSelf) ≤ 1 ∧
      (∀ before first after, names.steps = before ++ first :: after →
        first.axis = .descendantOrSelf → ∀ step ∈ after, step.axis ≠ .child) ∧
      (names.select .standard place).map Match.key = [([0, 0], 1), ([0, 1], 1)] ∧
      (names.select .standard place).Pairwise Match.Precedes ∧
      (elements.select .standard place).map Match.key =
        [([0], 0), ([0, 0], 0), ([0, 1], 0), ([0, 0, 0], 0)] ∧
      ((elements.select .standard place).map Match.key).Nodup := by
  intro down names elements place
  have hparent : ∀ step ∈ names.steps, step.axis ≠ .parent := by decide
  have honce : names.steps.countP (fun step => step.axis = .descendantOrSelf) ≤ 1 := by decide
  have hends : ∀ before first after, names.steps = before ++ first :: after →
      first.axis = .descendantOrSelf → ∀ step ∈ after, step.axis ≠ .child := by
    intro before first after hsteps haxis
    rcases before with _ | ⟨one, _ | ⟨two, before⟩⟩
    · cases hsteps
      decide
    · cases hsteps
      exact absurd haxis (by decide)
    · simp [names] at hsteps
  refine ⟨hparent, honce, hends, by decide, ?_, by decide, ?_⟩
  · exact (Query.select_distinct_and_ordered names hparent honce .standard place).2 hends
  · exact (Query.select_distinct_and_ordered elements (by decide) (by decide) .standard place).1

end SchemaFold.Sample
