import SchemaFold.Proofs.Context.Levels
import SchemaFold.Proofs.Invariant
import SchemaFold.Proofs.UserBindings
import SchemaFold.Proofs.Plan.Relaxes
/-!
Bounds only cut.

A document that keeps the bounds on nesting and on attributes has the same model, or the same error,
under wider ones; and a model is nested no deeper than the elements that it comes from may be.

* `Options.withLimits`: options with other bounds;
* `Xml.Place.fold_withLimits`: a fold that keeps a bound is the same run under a wider one;
* `Schema.checkAttributes_eq_ok_iff`, `Schema.checkAttributes_eq_error_iff`: which documents have
  too many attributes somewhere, and what is said of the first such element;
* `Fold.invariant_levels`, `Schema.levels_foldAll`: how deep the contexts of a fold are nested;
* `Schema.model_withLimits`: the statement for models.
-/

namespace SchemaFold

open Xml (Attribute Content Document Place)

/-- The options with other bounds. -/
def Options.withLimits (options : Options) (limits : Limits) : Options :=
  { options with limits := limits }

/-! ### Wider bounds -/

section
variable {choose : ElementKind → Option StandardRule} {options : Options} {limits : Limits}

theorem Xml.Content.relaxes_plan (hdepth : options.limits.depth ≤ limits.depth) (content : Content)
    (parent : Place) (depth number : Nat) :
    (content.plan (.ofStandard choose) options parent depth number).Relaxes Error.IsLimit
      (content.plan (.ofStandard choose) (options.withLimits limits) parent depth number) := by
  induction content generalizing parent depth number with
  | empty => exact .done
  | element start inside after ihInside ihAfter =>
    refine Plan.Relaxes.append ?_ (ihAfter parent depth (number + 1))
    -- the bound is all that the way in looks at, and the rules do not look at it
    have hkept : depth ≤ options.limits.depth → depth ≤ (options.withLimits limits).limits.depth :=
      fun h => Nat.le_trans h hdepth
    have hfill := fun ignored => Plan.Relaxes.enter_of_kept hkept
      (ihInside (.child parent number (.element start inside)) (depth + 1) 0) ignored
      start.attributes
    rw [Plan.dispatch_ofStandard, Plan.dispatch_ofStandard]
    rcases standardOf? choose start.name with _ | standard
    · exact .note _ (hfill [])
    · exact .note _ ((Plan.Relaxes.isCongruence _).ofStandard standard _ _ hfill)
  | text value position after ih => exact ih parent depth (number + 1)
  | comment value position after ih => exact ih parent depth (number + 1)
  | instruction position after ih => exact ih parent depth (number + 1)

/-- **A fold that keeps a bound is the same run under a wider one.** -/
theorem Xml.Place.fold_withLimits (hdepth : options.limits.depth ≤ limits.depth)
    (ignored : List String) (place : Place) (c : Context)
    (h : ∀ e, e.IsLimit → (place.fold (.ofStandard choose) options ignored c).result ≠ .error e) :
    place.fold (.ofStandard choose) (options.withLimits limits) ignored c =
      place.fold (.ofStandard choose) options ignored c := by
  have hblind := RuleTable.isBlind_ofStandard choose
  have hrelaxes : (place.plan (.ofStandard choose) options ignored).Relaxes Error.IsLimit
      (place.plan (.ofStandard choose) (options.withLimits limits) ignored) :=
    .enter_of_kept (fun h => Nat.le_trans h hdepth) (place.inside.relaxes_plan hdepth place 2 0)
      ignored place.attributes
  rw [fold_eq_exec hblind] at h
  rw [fold_eq_exec hblind, fold_eq_exec hblind]
  exact Plan.exec_eq_of_relaxes hrelaxes h

theorem Schema.foldAll_withLimits (hdepth : options.limits.depth ≤ limits.depth)
    (places : List Place) (c : Context)
    (h : ∀ e, e.IsLimit → (foldAll (.ofStandard choose) options places c).result ≠ .error e) :
    foldAll (.ofStandard choose) (options.withLimits limits) places c =
      foldAll (.ofStandard choose) options places c := by
  induction places generalizing c with
  | nil => rfl
  | cons place rest ih =>
    obtain ⟨hfirst, hrest⟩ := Plan.not_error_of_andThen h
    rw [foldAll, foldAll, place.fold_withLimits hdepth [] c hfirst]
    exact Run.andThen_congr fun hok => ih _ (hrest hok)

end

/-! ### Attributes -/

/-- A check of every item of a list passes if it passes each of them. -/
theorem forM_eq_ok_iff {α : Type} {check : α → Except Error Unit} {items : List α} :
    items.forM check = .ok () ↔ ∀ item ∈ items, check item = .ok () := by
  induction items with
  | nil => exact iff_of_true rfl (by simp)
  | cons first rest ih =>
    rw [List.forall_mem_cons, ← ih]
    show (check first).bind (fun _ => rest.forM check) = .ok () ↔ _
    rcases check first with e | _
    · simp [Except.bind]
    · simp [Except.bind]

/-- It ends in the error of an item if it passes all items before this one. -/
theorem forM_of_error {α : Type} {check : α → Except Error Unit} {before after : List α} {item : α}
    {e : Error} (hbefore : ∀ other ∈ before, check other = .ok ()) (hitem : check item = .error e) :
    (before ++ item :: after).forM check = .error e := by
  induction before with
  | nil =>
    show (check item).bind (fun _ => after.forM check) = .error e
    rw [hitem]
    rfl
  | cons first rest ih =>
    obtain ⟨hfirst, hrest⟩ := List.forall_mem_cons.mp hbefore
    show (check first).bind (fun _ => (rest ++ item :: after).forM check) = .error e
    rw [hfirst]
    exact ih hrest

/-- An error of such a check is that of the first item that it does not pass. -/
theorem exists_of_forM_error {α : Type} {check : α → Except Error Unit} {items : List α} {e : Error}
    (h : items.forM check = .error e) :
    ∃ before item after, items = before ++ item :: after ∧
      (∀ other ∈ before, check other = .ok ()) ∧ check item = .error e := by
  induction items with
  | nil => exact absurd h (by simp [pure, Except.pure])
  | cons first rest ih =>
    have hboth : (check first).bind (fun _ => rest.forM check) = .error e := h
    rcases hfirst : check first with e' | _
    · rw [hfirst] at hboth
      cases hboth
      exact ⟨[], first, rest, rfl, by simp, hfirst⟩
    · rw [hfirst] at hboth
      obtain ⟨before, item, after, rfl, hbefore, hitem⟩ := ih hboth
      exact ⟨first :: before, item, after, rfl, List.forall_mem_cons.mpr ⟨hfirst, hbefore⟩, hitem⟩

/-- Items that the check passes may be left out before. -/
theorem forM_filter {α : Type} {check : α → Except Error Unit} {keep : α → Bool}
    (h : ∀ item, keep item = false → check item = .ok ()) (items : List α) :
    (items.filter keep).forM check = items.forM check := by
  induction items with
  | nil => rfl
  | cons first rest ih =>
    show _ = (check first).bind (fun _ => rest.forM check)
    rw [← ih]
    rcases hkeep : keep first with _ | _
    · rw [List.filter_cons_of_neg (by simp [hkeep]), h first hkeep]
      rfl
    · rw [List.filter_cons_of_pos hkeep]
      rfl

namespace Schema

variable {limits : Limits} {document : Document} {place : Place} {e : Error}

/-- The check of attributes at one node. -/
def checkPlace (limits : Limits) (place : Place) : Except Error Unit :=
  (limits.checkAttributes place.attributes.length).mapError .limitExceeded

theorem checkPlace_eq_ok_iff :
    checkPlace limits place = .ok () ↔ place.attributes.length ≤ limits.attributes := by
  rw [checkPlace, mapError_eq_ok_iff, Limits.checkAttributes]
  by_cases hover : limits.attributes < place.attributes.length
  · simp [hover]
  · simp [hover, Nat.le_of_not_lt hover]

theorem checkPlace_eq_error_iff :
    checkPlace limits place = .error e ↔ limits.attributes < place.attributes.length ∧
      e = .limitExceeded (.attributes place.attributes.length limits.attributes) := by
  rw [checkPlace, Limits.checkAttributes]
  by_cases hover : limits.attributes < place.attributes.length
  · rw [if_pos hover]
    show Except.error _ = Except.error e ↔ _
    rw [Except.error.injEq, eq_comm]
    exact (and_iff_right hover).symm
  · rw [if_neg hover]
    exact iff_of_false nofun fun h => hover h.1

/-- Every node may be checked, since only elements have attributes. -/
theorem checkAttributes_eq_forM (limits : Limits) (document : Document) :
    checkAttributes limits document = document.places.forM (checkPlace limits) := by
  have hsame : checkAttributes limits document =
      (document.places.filter (fun place => place.start?.isSome)).forM (checkPlace limits) := by
    rw [checkAttributes]
    congr 1
    funext place
    rw [checkPlace]
    rcases limits.checkAttributes place.attributes.length with fault | _
    · rfl
    · rfl
  rw [hsame]
  -- what is left out is no element, and so has no attributes
  refine forM_filter (fun place hnone => checkPlace_eq_ok_iff.mpr ?_) document.places
  rcases hstart : place.start? with _ | start
  · rw [Place.attributes, hstart]
    exact Nat.zero_le _
  · simp [hstart] at hnone

/-- **What the check of attributes lets pass**: documents without too many of them anywhere. -/
theorem checkAttributes_eq_ok_iff :
    checkAttributes limits document = .ok () ↔
      ∀ place ∈ document.places, place.attributes.length ≤ limits.attributes := by
  rw [checkAttributes_eq_forM, forM_eq_ok_iff]
  simp only [checkPlace_eq_ok_iff]

/-- **What it does not let pass**: the error names the number of attributes of the first element
that has too many. -/
theorem checkAttributes_eq_error_iff :
    checkAttributes limits document = .error e ↔
      ∃ before place after, document.places = before ++ place :: after ∧
        (∀ other ∈ before, other.attributes.length ≤ limits.attributes) ∧
        limits.attributes < place.attributes.length ∧
        e = .limitExceeded (.attributes place.attributes.length limits.attributes) := by
  rw [checkAttributes_eq_forM]
  constructor
  · intro h
    obtain ⟨before, place, after, hplaces, hbefore, hplace⟩ := exists_of_forM_error h
    exact ⟨before, place, after, hplaces,
      fun other hother => checkPlace_eq_ok_iff.mp (hbefore other hother),
      checkPlace_eq_error_iff.mp hplace⟩
  · rintro ⟨before, place, after, hplaces, hbefore, hplace⟩
    rw [hplaces]
    exact forM_of_error (fun other hother => checkPlace_eq_ok_iff.mpr (hbefore other hother))
      (checkPlace_eq_error_iff.mpr hplace)

/-- An error of the check is about a bound. -/
theorem isLimit_of_checkAttributes (h : checkAttributes limits document = .error e) :
    e.IsLimit := by
  obtain ⟨_, _, _, -, -, -, rfl⟩ := checkAttributes_eq_error_iff.mp h
  exact ⟨_, rfl⟩

end Schema

/-! ### Levels -/

/-- **How deep the contexts of a fold are nested.** A fold of elements at some depth that comes to
its end leaves no more levels than there were or than the bound leaves room for. -/
theorem Fold.invariant_levels (options : Options) :
    Fold.Invariant options (fun depth c run => run.result = .ok () →
      run.context.levels ≤ max c.levels (options.limits.depth + 2 - depth)) where
  stay _ c _ _ _ := Nat.le_max_left ..
  write _ c key text _ _ := Nat.le_trans (c.levels_setScalar key text) (Nat.le_max_left ..)
  put {depth c key run} log _ hdepth hrun hok := by
    have hput := c.levels_putNested key run.context
    have hinner : run.context.levels ≤ max 1 (options.limits.depth + 2 - (depth + 1)) := hrun hok
    have hkept : depth ≤ options.limits.depth := hdepth hok
    show (c.putNested key run.context).levels ≤ _
    omega
  andThen {depth c first next} hfirst hnext hok := by
    obtain ⟨hok, hlater⟩ := Run.result_andThen_eq_ok.mp hok
    have hbefore := hfirst hok
    have hafter := hnext hok hlater
    rw [Run.andThen_of_ok hok]
    show (next first.context).context.levels ≤ _
    omega
  outward h hok := by
    have hinside := h hok
    omega

/-- Folds into an empty context, if there are any, are nested no deeper than elements may be. -/
theorem Schema.levels_foldAll {table : RuleTable} {options : Options} {places : List Place}
    {c : Context} (hok : (foldAll table options places c).result = .ok ()) :
    (foldAll table options places c).context.levels ≤ max c.levels options.limits.depth ∧
      (places ≠ [] → 1 ≤ options.limits.depth) := by
  induction places generalizing c with
  | nil => exact ⟨Nat.le_max_left .., fun h => absurd rfl h⟩
  | cons place rest ih =>
    obtain ⟨hfirst, hrest⟩ := Run.result_andThen_eq_ok.mp hok
    have hfills := place.fold_holds (Fold.invariant_levels options) table []
    have hplace := hfills.holds c hfirst
    have hlater := (ih hrest).1
    refine ⟨?_, fun _ => hfills.le c hfirst⟩
    rw [foldAll, Run.andThen_of_ok hfirst]
    show (foldAll table options rest (place.fold table options [] c).context).context.levels ≤ _
    omega

/-! ### Models -/

namespace Schema

/-- **Bounds only cut.** If a document does not go over a bound, its model or its error is the same
under all bounds on nesting and attributes that are as wide. If it has a model, none of its elements
has more attributes than the bound says, and no more contexts are nested in one another in the model
than elements may be, the root context counted. -/
theorem model_withLimits (choose : ElementKind → Option StandardRule) (options : Options)
    (limits : Limits) (hdepth : options.limits.depth ≤ limits.depth)
    (hattributes : options.limits.attributes ≤ limits.attributes) (document : Document) :
    let found := model (.ofStandard choose) options document
    ((∀ fault, found.result ≠ .error (.limitExceeded fault)) →
      model (.ofStandard choose) (options.withLimits limits) document = found) ∧
    (∀ made, found.result = .ok made →
      (∀ place ∈ document.places, place.attributes.length ≤ options.limits.attributes) ∧
      made.elements.levels ≤ options.limits.depth) := by
  intro found
  rcases hcheck : checkAttributes options.limits document with e | _
  · -- too many attributes are an error of a bound
    have hfound : found = .fail e := model_of_error hcheck
    obtain ⟨fault, rfl⟩ := isLimit_of_checkAttributes hcheck
    rw [hfound]
    exact ⟨fun h => absurd rfl (h fault), fun made h => absurd h (by simp [Act.fail])⟩
  · have hwider : checkAttributes (options.withLimits limits).limits document = .ok () := by
      rw [checkAttributes_eq_ok_iff] at hcheck ⊢
      exact fun place hplace => Nat.le_trans (hcheck place hplace) hattributes
    rcases hroots : roots options.bindings document with _ | ⟨place, rest⟩
    · have hfound : found = .fail (notSchema document) := model_of_no_roots hcheck hroots
      refine ⟨fun _ => (model_of_no_roots hwider hroots).trans hfound.symm, fun made h => ?_⟩
      rw [hfound] at h
      exact absurd h (by simp [Act.fail])
    · have hfound : found = _ := model_of_roots hcheck hroots
      rw [model_of_roots hwider hroots, hfound]
      refine ⟨fun h => ?_, fun made h => ⟨checkAttributes_eq_ok_iff.mp hcheck, ?_⟩⟩
      · rw [foldAll_withLimits hdepth]
        rintro e ⟨fault, rfl⟩ herror
        refine h fault ?_
        rw [Run.model, herror]
        rfl
      · obtain ⟨hok, rfl⟩ := Run.model_result_eq_ok.mp h
        obtain ⟨hlevels, hroom⟩ := levels_foldAll hok
        have hone : 1 ≤ options.limits.depth := hroom (by simp)
        have hempty : Context.empty.levels = 1 := rfl
        show (foldAll _ options (place :: rest) .empty).context.levels ≤ _
        omega

end Schema

namespace Sample

/-- Bounds that an element with two attributes inside a schema just keeps. -/
def tight : Options := (options .reject .reject).withLimits ⟨2, 10, 2⟩

/-- A document with such an element. -/
def shallow : Document :=
  ⟨[], ⟨⟨some xsdNamespace, "schema"⟩, [], ⟨1, 1⟩⟩,
    element "element" 2 [("name", "A"), ("type", "string")] .empty .empty, []⟩

/-- The model of the document under these bounds, and under wider ones. -/
theorem model_withLimits_of_shallow :
    tight.limits.depth ≤ 5 ∧ tight.limits.attributes ≤ 9 ∧
      (Schema.model .standard tight shallow).result =
        .ok ⟨.nested "A" (.scalar "type" "string" .empty) .empty⟩ ∧
      Schema.model .standard (tight.withLimits ⟨5, 0, 9⟩) shallow =
        Schema.model .standard tight shallow ∧
      (∀ place ∈ shallow.places, place.attributes.length ≤ 2) ∧
      (Context.nested "A" (.scalar "type" "string" .empty) .empty).levels ≤ 2 := by
  have hdepth : tight.limits.depth ≤ 5 := by decide
  have hattributes : tight.limits.attributes ≤ 9 := by decide
  have hmade : (Schema.model .standard tight shallow).result =
      .ok ⟨.nested "A" (.scalar "type" "string" .empty) .empty⟩ := rfl
  obtain ⟨hsame, hbounds⟩ := Schema.model_withLimits StandardRule.ofKind? tight ⟨5, 0, 9⟩ hdepth
    hattributes shallow
  have hwithin : ∀ fault, (Schema.model .standard tight shallow).result ≠
      .error (.limitExceeded fault) := by
    intro fault
    rw [hmade]
    simp
  obtain ⟨hplaces, hlevels⟩ := hbounds _ hmade
  exact ⟨hdepth, hattributes, hmade, hsame hwithin, hplaces, hlevels⟩

end Sample

end SchemaFold
