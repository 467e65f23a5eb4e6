import SchemaFold.Proofs.Plan.Standard
import SchemaFold.Proofs.Write
/-!
What a fold under built-in rules may report, and which errors may end it.

* `Plan.Within`: the events and errors of a plan keep to given kinds;
* `Plan.mem_log_exec`, `Plan.error_exec`: so do those of its runs, but for duplicate keys;
* `Xml.Place.mem_log_fold`: a fold warns of what its options allow, and of nothing else;
* `Xml.Place.error_fold`: a fold ends in an error only if a bound or a policy asks for it.
-/

namespace SchemaFold

open Xml (Attribute Content Place)

/-- A warning that a construct without an identifier has been left out. -/
def Event.IsSkip : Event → Prop
  | .unnamedSkipped .. => True
  | _ => False

namespace Plan

/-- All events of a plan are of one kind, and all errors of another. -/
def Within (P : Event → Prop) (E : Error → Prop) : Plan → Prop
  | .done => True
  | .fail e => E e
  | .note event rest => P event ∧ rest.Within P E
  | .copy _ _ rest => rest.Within P E
  | .scalar _ _ _ rest => rest.Within P E
  | .nested _ _ inner rest => inner.Within P E ∧ rest.Within P E

variable {P : Event → Prop} {E : Error → Prop} {p q : Plan} {replaces : Bool} {c : Context}

theorem Within.append (hp : p.Within P E) (hq : q.Within P E) : (p ++ q).Within P E := by
  induction p with
  | done => exact hq
  | fail e => exact hp
  | note event rest ih => exact ⟨hp.1, ih hp.2⟩
  | copy key text rest ih => exact ih hp
  | scalar site key text rest ih => exact ih hp
  | nested site key inner rest _ ih => exact ⟨hp.1, ih hp.2⟩

theorem within_ofScalars (site : Site) (entries : List (String × String)) :
    (ofScalars site entries).Within P E := by
  induction entries with
  | nil => trivial
  | cons entry rest ih => exact ih

theorem within_ofAttributes (ignored : List String) (attributes : List Attribute) :
    (ofAttributes ignored attributes).Within P E := by
  induction attributes with
  | nil => trivial
  | cons a rest ih =>
    rw [ofAttributes]
    split
    · exact ih
    · exact ih

theorem Within.descend (site : Site) (descent : Descent) (h : p.Within P E)
    (closing : List (String × String)) : (descend site descent p closing).Within P E := by
  refine (within_ofScalars site _).append ?_
  rcases descent.scope with _ | key | _
  · exact h.append (within_ofScalars site closing)
  · exact ⟨h, within_ofScalars site closing⟩
  · trivial

/-! ### Runs -/

/-- An event of a run is one of its plan, or tells of a construct that was replaced. -/
theorem mem_log_exec (h : p.Within P E) {event : Event}
    (hevent : event ∈ (p.exec replaces c).log) :
    P event ∨ replaces = true ∧ event.IsReplacement := by
  induction p generalizing c with
  | done => exact absurd hevent (by simp [exec, Run.done])
  | fail e => exact absurd hevent (by simp [exec, Run.fail])
  | note first rest ih =>
    rw [exec, Run.report_andThen, List.mem_append, List.mem_singleton] at hevent
    rcases hevent with rfl | hrest
    · exact Or.inl h.1
    · exact ih h.2 hrest
  | copy key text rest ih => exact ih h hevent
  | scalar site key text rest ih =>
    rw [exec] at hevent
    rcases Run.mem_log_andThen hevent with hwrite | hrest
    · exact Or.inr (Fold.mem_log_writeScalar hwrite)
    · exact ih h hrest
  | nested site key inner rest ihInner ih =>
    rw [exec] at hevent
    rcases Run.mem_log_andThen hevent with hnest | hrest
    · rcases Fold.mem_log_nest hnest with hinner | hreplaced
      · exact ihInner h.1 hinner
      · exact Or.inr hreplaced
    · exact ih h.2 hrest

/-- An error of a run is one of its plan, or a duplicate key. -/
theorem error_exec (h : p.Within P E) {e : Error} (he : (p.exec replaces c).result = .error e) :
    E e ∨ replaces = false ∧ ∃ key element location, e = .duplicateKey key element location := by
  induction p generalizing c with
  | done => exact absurd he (by simp [exec, Run.done])
  | fail error =>
    rw [exec, Run.fail, Except.error.injEq] at he
    exact Or.inl (he ▸ h)
  | note event rest ih => exact ih h.2 he
  | copy key text rest ih => exact ih h he
  | scalar site key text rest ih =>
    rw [exec] at he
    rcases Run.error_andThen he with hwrite | hrest
    · exact Or.inr (Fold.error_writeScalar hwrite)
    · exact ih h hrest
  | nested site key inner rest ihInner ih =>
    rw [exec] at he
    rcases Run.error_andThen he with hnest | hrest
    · rcases Fold.error_nest hnest with hinner | hduplicate
      · exact ihInner h.1 hinner
      · exact Or.inr hduplicate
    · exact ih h.2 hrest

end Plan

/-! ### Folds under built-in rules -/

/-- The events that a policy on missing identifiers allows to be planned. -/
def Event.IsPlanned (missing : MissingIdentifier) (event : Event) : Prop :=
  ¬ event.IsReplacement ∧ (event.IsSkip → missing = .skip)

/-- The errors that bounds and a policy on missing identifiers allow to be planned. -/
def Error.IsPlanned (missing : MissingIdentifier) (e : Error) : Prop :=
  (∃ fault, e = .limitExceeded fault) ∨
    missing = .reject ∧ ∃ element location, e = .missingIdentifier element location

theorem Plan.within_ofStandard (standard : StandardRule) (missing : MissingIdentifier)
    (place : Place) {fill : List String → Plan}
    (hfill : ∀ ignored, (fill ignored).Within (Event.IsPlanned missing) (Error.IsPlanned missing)) :
    (ofStandard standard missing place fill).Within (Event.IsPlanned missing)
      (Error.IsPlanned missing) := by
  rw [ofStandard]
  rcases standard.descent? place with _ | descent
  · cases missing with
    | reject => exact Or.inr ⟨rfl, _, _, rfl⟩
    | skip => exact ⟨⟨id, fun _ => rfl⟩, trivial⟩
  · exact (hfill standard.ignored).descend place.site descent standard.closing

theorem Plan.within_enter (options : Options) (ignored : List String)
    (attributes : List Attribute) (depth : Nat) {P : Event → Prop} {missing : MissingIdentifier}
    {inside : Plan} (h : inside.Within P (Error.IsPlanned missing)) :
    (enter options ignored attributes depth inside).Within P (Error.IsPlanned missing) := by
  rw [enter]
  rcases options.limits.checkDepth depth with fault | _
  · exact Or.inl ⟨fault, rfl⟩
  · exact (within_ofAttributes ignored attributes).append h

theorem Xml.Content.within_plan (choose : ElementKind → Option StandardRule) (options : Options)
    (content : Content) (parent : Place) (depth number : Nat) :
    (content.plan (.ofStandard choose) options parent depth number).Within
      (Event.IsPlanned options.missingIdentifier) (Error.IsPlanned options.missingIdentifier) := by
  induction content generalizing parent depth number with
  | empty => trivial
  | element start inside after ihInside ihAfter =>
    refine Plan.Within.append ?_ (ihAfter parent depth (number + 1))
    have hfill : ∀ ignored, (Plan.enter options ignored start.attributes depth
        (inside.plan (.ofStandard choose) options (.child parent number (.element start inside))
          (depth + 1) 0)).Within _ _ :=
      fun ignored => Plan.within_enter options ignored start.attributes depth
        (ihInside (.child parent number (.element start inside)) (depth + 1) 0)
    rw [Plan.dispatch_ofStandard]
    rcases standardOf? choose start.name with _ | standard
    · exact ⟨⟨id, False.elim⟩, hfill []⟩
    · exact ⟨⟨id, False.elim⟩, Plan.within_ofStandard standard _ _ hfill⟩
  | text value position after ih => exact ih parent depth (number + 1)
  | comment value position after ih => exact ih parent depth (number + 1)
  | instruction position after ih => exact ih parent depth (number + 1)

namespace Xml.Place

variable {choose : ElementKind → Option StandardRule} {options : Options} {ignored : List String}
  {place : Place} {c : Context}

theorem within_plan :
    (place.plan (.ofStandard choose) options ignored).Within
      (Event.IsPlanned options.missingIdentifier) (Error.IsPlanned options.missingIdentifier) :=
  Plan.within_enter options ignored place.attributes 1
    (place.inside.within_plan choose options place 2 0)

/-- **What a fold warns of is what its options allow.** -/
theorem mem_log_fold {event : Event}
    (h : event ∈ (place.fold (.ofStandard choose) options ignored c).log) :
    (event.IsReplacement → options.duplicateKeys = .lastWins) ∧
      (event.IsSkip → options.missingIdentifier = .skip) := by
  rw [fold_eq_exec (RuleTable.isBlind_ofStandard choose)] at h
  rcases Plan.mem_log_exec within_plan h with ⟨hreplacement, hskip⟩ | ⟨hreplaces, hreplacement⟩
  · exact ⟨fun hevent => absurd hevent hreplacement, hskip⟩
  · refine ⟨fun _ => by simpa [Options.replaces] using hreplaces, fun hskip => ?_⟩
    -- no event is both
    cases event <;> first | exact hskip.elim | exact hreplacement.elim

/-- **An error that ends a fold is one that a bound or a policy asks for.** -/
theorem error_fold {e : Error}
    (h : (place.fold (.ofStandard choose) options ignored c).result = .error e) :
    (∃ fault, e = .limitExceeded fault) ∨
      (options.missingIdentifier = .reject ∧
        ∃ element location, e = .missingIdentifier element location) ∨
      (options.duplicateKeys = .reject ∧
        ∃ key element location, e = .duplicateKey key element location) := by
  rw [fold_eq_exec (RuleTable.isBlind_ofStandard choose)] at h
  rcases Plan.error_exec within_plan h with (hlimit | hmissing) | ⟨hreplaces, hduplicate⟩
  · exact Or.inl hlimit
  · exact Or.inr (Or.inl hmissing)
  · refine Or.inr (Or.inr ⟨?_, hduplicate⟩)
    rcases hpolicy : options.duplicateKeys with _ | _
    · rfl
    · rw [Options.replaces, hpolicy] at hreplaces
      exact absurd hreplaces (by decide)

end Xml.Place

end SchemaFold
