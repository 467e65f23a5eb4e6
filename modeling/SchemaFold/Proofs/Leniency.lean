import SchemaFold.Proofs.Plan.Relaxes
import SchemaFold.Proofs.Plan.Report
import SchemaFold.Proofs.Plan.Strict
import SchemaFold.Proofs.Sample
/-!
Lenient policies only add to strict ones.

* `Options.Loosens`: options in which policies that reject may have been turned into lenient ones;
* `Xml.Place.plan_relaxes`: the plan of a fold under the lenient options goes on where the strict
  one ends for want of an identifier;
* `Xml.Place.fold_eq_of_loosens`: a fold that comes to its end under strict options is the same run
  under lenient ones, down to what it reports.
-/

namespace SchemaFold

open Xml (Attribute Content Place StartTag)

/-- The lenient options differ from the strict ones at most in policies that reject in the strict
ones. -/
structure Options.Loosens (strict lenient : Options) : Prop where
  duplicateKeys : lenient.duplicateKeys = strict.duplicateKeys ∨
    strict.duplicateKeys = .reject ∧ lenient.duplicateKeys = .lastWins
  missingIdentifier : lenient.missingIdentifier = strict.missingIdentifier ∨
    strict.missingIdentifier = .reject ∧ lenient.missingIdentifier = .skip
  limits : lenient.limits = strict.limits
  bindings : lenient.bindings = strict.bindings

/-- The error of a construct without an identifier. -/
def Error.IsMissingIdentifier (e : Error) : Prop :=
  ∃ element location, e = .missingIdentifier element location

namespace Plan

variable {strict lenient : Options}

theorem relaxes_ofStandard (h : strict.Loosens lenient) (standard : StandardRule) (place : Place)
    {fill fill' : List String → Plan}
    (hfill : ∀ ignored, (fill ignored).Relaxes Error.IsMissingIdentifier (fill' ignored)) :
    (ofStandard standard strict.missingIdentifier place fill).Relaxes Error.IsMissingIdentifier
      (ofStandard standard lenient.missingIdentifier place fill') := by
  rw [ofStandard, ofStandard]
  rcases standard.descent? place with _ | descent
  · -- an identifier is missing, and this is where the plans may part
    rcases h.missingIdentifier with hsame | ⟨hreject, _⟩
    · rw [hsame]
      exact .refl _
    · rw [hreject]
      exact .goOn ⟨_, _, rfl⟩ _
  · exact (hfill standard.ignored).descend place.site descent standard.closing

theorem relaxes_enter (h : strict.Loosens lenient) (ignored : List String)
    (attributes : List Attribute) (depth : Nat) {E : Error → Prop} {inside inside' : Plan}
    (hinside : inside.Relaxes E inside') :
    (enter strict ignored attributes depth inside).Relaxes E
      (enter lenient ignored attributes depth inside') := by
  have hsame : enter lenient ignored attributes depth inside' =
      enter strict ignored attributes depth inside' := by
    rw [enter, enter, h.limits]
  rw [hsame]
  exact hinside.enter strict ignored attributes depth

end Plan

theorem Xml.Content.plan_relaxes {strict lenient : Options} (h : strict.Loosens lenient)
    (choose : ElementKind → Option StandardRule) (content : Content) (parent : Place)
    (depth number : Nat) :
    (content.plan (.ofStandard choose) strict parent depth number).Relaxes
      Error.IsMissingIdentifier
      (content.plan (.ofStandard choose) lenient parent depth number) := by
  induction content generalizing parent depth number with
  | empty => exact .done
  | element start inside after ihInside ihAfter =>
    refine Plan.Relaxes.append ?_ (ihAfter parent depth (number + 1))
    have hinside := ihInside (.child parent number (.element start inside)) (depth + 1) 0
    rw [Plan.dispatch_ofStandard, Plan.dispatch_ofStandard]
    rcases standardOf? choose start.name with _ | standard
    · exact .note _ (Plan.relaxes_enter h [] start.attributes depth hinside)
    · exact .note _ (Plan.relaxes_ofStandard h standard _ fun ignored =>
        Plan.relaxes_enter h ignored start.attributes depth hinside)
  | text value position after ih => exact ih parent depth (number + 1)
  | comment value position after ih => exact ih parent depth (number + 1)
  | instruction position after ih => exact ih parent depth (number + 1)

namespace Xml.Place

variable {strict lenient : Options}

theorem plan_relaxes (h : strict.Loosens lenient) (choose : ElementKind → Option StandardRule)
    (ignored : List String) (place : Place) :
    (place.plan (.ofStandard choose) strict ignored).Relaxes Error.IsMissingIdentifier
      (place.plan (.ofStandard choose) lenient ignored) :=
  Plan.relaxes_enter h ignored place.attributes 1
    (place.inside.plan_relaxes h choose place 2 0)

/-- **A fold that comes to its end under strict policies is the same run under lenient ones**: it
leaves the same context and reports the same events. So it warns of no duplicate key if the strict
policy rejects these, and of no construct left out if the strict policy rejects those. -/
theorem fold_eq_of_loosens (h : strict.Loosens lenient)
    (choose : ElementKind → Option StandardRule) (ignored : List String) (place : Place)
    (c : Context) (hok : (place.fold (.ofStandard choose) strict ignored c).result = .ok ()) :
    let run := place.fold (.ofStandard choose) lenient ignored c
    run = place.fold (.ofStandard choose) strict ignored c ∧
      run.result = .ok () ∧
      (strict.duplicateKeys = .reject → ∀ event ∈ run.log, ¬ event.IsReplacement) ∧
      (strict.missingIdentifier = .reject → ∀ event ∈ run.log, ¬ event.IsSkip) := by
  intro run
  have hblind := RuleTable.isBlind_ofStandard choose
  have hrun : run = place.fold (.ofStandard choose) strict ignored c := by
    show place.fold (.ofStandard choose) lenient ignored c = _
    rw [fold_eq_exec hblind] at hok
    rw [fold_eq_exec hblind, fold_eq_exec hblind]
    -- first the policy on identifiers is loosened, then that on duplicate keys
    have hrelaxed : (place.plan (.ofStandard choose) lenient ignored).exec strict.replaces c =
        (place.plan (.ofStandard choose) strict ignored).exec strict.replaces c := by
      refine Plan.exec_eq_of_relaxes (place.plan_relaxes h choose ignored) fun e _ he => ?_
      rw [hok] at he
      exact absurd he (by simp)
    rcases h.duplicateKeys with hsame | ⟨hreject, hlast⟩
    · rw [← hrelaxed, Options.replaces, Options.replaces, hsame]
    · have hstrict : strict.replaces = false := by rw [Options.replaces, hreject]; rfl
      have hlenient : lenient.replaces = true := by rw [Options.replaces, hlast]; rfl
      rw [hstrict] at hok hrelaxed
      rw [hlenient, hstrict, ← hrelaxed]
      exact (Plan.completes_of_ok (by rw [hrelaxed, hok])).exec_true
  refine ⟨hrun, hrun ▸ hok, fun hreject event hevent hreplacement => ?_,
    fun hreject event hevent hskip => ?_⟩
  · rw [hrun] at hevent
    have hlast := (mem_log_fold hevent).1 hreplacement
    exact absurd (hreject.symm.trans hlast) (by decide)
  · rw [hrun] at hevent
    have hpolicy := (mem_log_fold hevent).2 hskip
    exact absurd (hreject.symm.trans hpolicy) (by decide)

end Xml.Place

namespace Sample

/-- A type with two elements under the strict policies, and the same run under the lenient ones. -/
theorem fold_eq_of_loosens_of_type :
    let strict := options .reject .reject
    let lenient := options .lastWins .skip
    let place := schema
      (element "complexType" 2 [("name", "T")]
        (element "element" 3 [("name", "a")] .empty
          (element "element" 4 [("ref", "b")] .empty .empty))
        .empty)
    strict.Loosens lenient ∧ (place.fold .standard strict [] .empty).result = .ok () ∧
      place.fold .standard lenient [] .empty = place.fold .standard strict [] .empty ∧
      ∀ event ∈ (place.fold .standard lenient [] .empty).log, ¬ event.IsSkip := by
  intro strict lenient place
  have hloosens : strict.Loosens lenient :=
    ⟨Or.inr ⟨rfl, rfl⟩, Or.inr ⟨rfl, rfl⟩, rfl, rfl⟩
  have hok : (place.fold .standard strict [] .empty).result = .ok () := rfl
  obtain ⟨hrun, _, _, hskips⟩ :=
    Xml.Place.fold_eq_of_loosens hloosens StandardRule.ofKind? [] place .empty hok
  exact ⟨hloosens, hok, hrun, hskips rfl⟩

/-- Options that leave out constructs without an identifier warn of them, whatever the policy on
duplicate keys. -/
theorem fold_skips_under_both :
    let strict := options .reject .skip
    let lenient := options .lastWins .skip
    let place := schema (element "element" 2 [] .empty .empty)
    strict.Loosens lenient ∧ (place.fold .standard strict [] .empty).result = .ok () ∧
      ¬ ∀ event ∈ (place.fold .standard lenient [] .empty).log, ¬ event.IsSkip := by
  intro strict lenient place
  refine ⟨⟨Or.inr ⟨rfl, rfl⟩, Or.inl rfl, rfl, rfl⟩, rfl, fun hquiet => ?_⟩
  have hlog : (place.fold .standard lenient [] .empty).log =
      [.dispatched "element", .unnamedSkipped "element" ⟨2, 1⟩] := rfl
  refine hquiet (.unnamedSkipped "element" ⟨2, 1⟩) ?_ trivial
  rw [hlog]
  exact List.mem_cons_of_mem _ (List.mem_singleton_self _)

end Sample

end SchemaFold
