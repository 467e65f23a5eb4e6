import SchemaFold.Proofs.Ending
import SchemaFold.Proofs.Sample
/-!
How deep a document may be nested for lenient options.

Options that let later constructs replace earlier ones and leave out those without an identifier
leave a fold nothing to fail on but the nesting of elements; and what is inside the elements that
are left out does not count.

* `Xml.Place.Visits`: the elements that a fold comes to, with their depths;
* `Xml.Content.error?_eq_none_iff`: there is no error for a tree just if none of them is too deep;
* `Xml.Place.fold_of_lenient`: the statement for folds.
-/

namespace SchemaFold

open Xml (Content Place StartTag)

/-! ### Elements that a fold comes to -/

/-- The elements that a fold comes to from a place at some depth, and how deep they are. These are
the place itself and, one level deeper each, the child elements of such an element that do not lack
an identifier. -/
inductive Xml.Place.Visits (choose : ElementKind → Option StandardRule) :
    Place → Nat → Place → Nat → Prop
  | here (place : Place) (depth : Nat) : Visits choose place depth place depth
  | down {place child other : Place} {start : StartTag} {depth found : Nat}
    (hchild : child ∈ place.children) (hstart : child.start? = some start)
    (hkept : lacksIdentifier choose place.name? start = false)
    (hbelow : Visits choose child (depth + 1) other found) :
    Visits choose place depth other found

variable {choose : ElementKind → Option StandardRule} {options : Options}

/-- The depths of all elements that a fold comes to, from those of a place and of its children. -/
theorem Xml.Place.forall_visits_iff {place : Place} {depth : Nat} {P : Nat → Prop} :
    (∀ other found, place.Visits choose depth other found → P found) ↔
      P depth ∧ ∀ child ∈ place.children, ∀ start, child.start? = some start →
        lacksIdentifier choose place.name? start = false →
        ∀ other found, child.Visits choose (depth + 1) other found → P found := by
  constructor
  · intro h
    exact ⟨h place depth (.here place depth), fun child hchild start hstart hkept other found
      hbelow => h other found (.down hchild hstart hkept hbelow)⟩
  · rintro ⟨hhere, hchildren⟩ other found hvisits
    cases hvisits with
    | here => exact hhere
    | down hchild hstart hkept hbelow =>
      exact hchildren _ hchild _ hstart hkept other found hbelow

/-- A fold comes to elements only. -/
theorem Xml.Place.forall_mem_cons_iff {first : Place} {rest : List Place}
    {P : Place → StartTag → Prop} (h : first.start? = none) :
    (∀ child ∈ first :: rest, ∀ start, child.start? = some start → P child start) ↔
      ∀ child ∈ rest, ∀ start, child.start? = some start → P child start := by
  rw [List.forall_mem_cons, h]
  simp

/-! ### Errors -/

theorem Options.depthError?_eq_none_iff {depth : Nat} :
    options.depthError? depth = none ↔ depth ≤ options.limits.depth := by
  rw [depthError?]
  by_cases hover : options.limits.depth < depth
  · simp [hover]
  · simp [hover, Nat.le_of_not_lt hover]

/-- The first element that is too deep is so by one level. -/
theorem Options.eq_of_depthError? {depth : Nat} {e : Error}
    (hdepth : depth ≤ options.limits.depth + 1) (h : options.depthError? depth = some e) :
    e = .limitExceeded (.depth (options.limits.depth + 1) options.limits.depth) := by
  rw [depthError?] at h
  split at h
  · rename_i hover
    obtain rfl : depth = options.limits.depth + 1 := by omega
    exact (Option.some.inj h).symm
  · exact absurd h (by simp)

/-- **There is no error for a content just if no element that a fold comes to is too deep.** -/
theorem Xml.Content.error?_eq_none_iff (hskip : options.missingIdentifier = .skip)
    (content : Content) (parent : Place) (depth number : Nat) :
    content.error? choose options parent.name? depth = none ↔
      ∀ child ∈ Place.childrenFrom parent number content, ∀ start, child.start? = some start →
        lacksIdentifier choose parent.name? start = false →
        ∀ other found, child.Visits choose depth other found → found ≤ options.limits.depth := by
  induction content generalizing parent depth number with
  | empty => simp [error?, Place.childrenFrom]
  | element start inside after ihInside ihAfter =>
    rw [error?, Place.childrenFrom, Option.or_eq_none_iff, List.forall_mem_cons,
      ihAfter parent depth (number + 1)]
    refine and_congr_left fun _ => ?_
    by_cases hlacks : lacksIdentifier choose parent.name? start = true
    · -- an element that is left out has no error, and the fold does not come to it
      rw [if_pos hlacks, Options.unnamedError?, hskip]
      refine iff_of_true rfl fun start' hstart hkept => ?_
      obtain rfl : start = start' := Option.some.inj hstart
      rw [hlacks] at hkept
      exact absurd hkept (by decide)
    · have hinside := ihInside (.child parent number (.element start inside)) (depth + 1) 0
      rw [if_neg hlacks, Option.or_eq_none_iff, Options.depthError?_eq_none_iff]
      constructor
      · rintro ⟨hhere, hnone⟩ _ _ _
        exact Place.forall_visits_iff.mpr ⟨hhere, hinside.mp hnone⟩
      · intro h
        obtain ⟨hhere, hbelow⟩ := Place.forall_visits_iff.mp (h start rfl (by simpa using hlacks))
        exact ⟨hhere, hinside.mpr hbelow⟩
  | text value position after ih =>
    rw [error?, Place.childrenFrom, Place.forall_mem_cons_iff rfl]
    exact ih parent depth (number + 1)
  | comment value position after ih =>
    rw [error?, Place.childrenFrom, Place.forall_mem_cons_iff rfl]
    exact ih parent depth (number + 1)
  | instruction position after ih =>
    rw [error?, Place.childrenFrom, Place.forall_mem_cons_iff rfl]
    exact ih parent depth (number + 1)

/-- If elements without an identifier may be left out, an error is that of an element one level too
deep. -/
theorem Xml.Content.eq_of_error? (hskip : options.missingIdentifier = .skip) {content : Content}
    {parent : Option ExpandedName} {depth : Nat} {e : Error}
    (hdepth : depth ≤ options.limits.depth + 1)
    (h : content.error? choose options parent depth = some e) :
    e = .limitExceeded (.depth (options.limits.depth + 1) options.limits.depth) := by
  induction content generalizing parent depth with
  | empty => exact absurd h (by simp [error?])
  | element start inside after ihInside ihAfter =>
    rw [error?, Option.or_eq_some_iff] at h
    rcases h with hfirst | ⟨_, hafter⟩
    · split at hfirst
      · rw [Options.unnamedError?, hskip] at hfirst
        exact absurd hfirst (by simp)
      · rcases Option.or_eq_some_iff.mp hfirst with hover | ⟨hkept, hinside⟩
        · exact Options.eq_of_depthError? hdepth hover
        · have hroom := Options.depthError?_eq_none_iff.mp hkept
          exact ihInside (Nat.succ_le_succ hroom) hinside
    · exact ihAfter hdepth hafter
  | text value position after ih => exact ih hdepth h
  | comment value position after ih => exact ih hdepth h
  | instruction position after ih => exact ih hdepth h

/-! ### Folds -/

namespace Xml.Place

/-- **Lenient options leave a fold nothing to fail on but the nesting.** If later constructs replace
earlier ones and those without an identifier are left out, a fold comes to its end just if no
element that it comes to is deeper than the bound, the place that it starts from being at depth one.
Any error is that of an element one level too deep. -/
theorem fold_of_lenient (choose : ElementKind → Option StandardRule) (options : Options)
    (hkeys : options.duplicateKeys = .lastWins) (hskip : options.missingIdentifier = .skip)
    (ignored : List String) (place : Place) (c : Context) :
    let run := place.fold (.ofStandard choose) options ignored c
    (run.result = .ok () ↔
      ∀ other depth, place.Visits choose 1 other depth → depth ≤ options.limits.depth) ∧
    ∀ e, run.result = .error e →
      e = .limitExceeded (.depth (options.limits.depth + 1) options.limits.depth) := by
  intro run
  have hresult : run.result = (place.error? choose options).elim (.ok ()) .error :=
    place.result_fold_of_lastWins hkeys ignored c
  have hok : run.result = .ok () ↔ place.error? choose options = none := by
    rw [hresult]
    rcases place.error? choose options with _ | e
    · simp
    · simp
  refine ⟨?_, fun e he => ?_⟩
  · rw [hok, error?, Option.or_eq_none_iff, Options.depthError?_eq_none_iff,
      place.inside.error?_eq_none_iff hskip place 2 0]
    exact (forall_visits_iff (P := (· ≤ options.limits.depth))).symm
  · have herror : place.error? choose options = some e := by
      rw [hresult] at he
      rcases hfound : place.error? choose options with _ | e'
      · rw [hfound] at he
        exact absurd he (by simp)
      · rw [hfound] at he
        exact congrArg some (Except.error.inj he)
    rw [error?] at herror
    rcases Option.or_eq_some_iff.mp herror with hover | ⟨hkept, hinside⟩
    · exact Options.eq_of_depthError? (Nat.succ_le_succ (Nat.zero_le _)) hover
    · have hroom := Options.depthError?_eq_none_iff.mp hkept
      exact place.inside.eq_of_error? hskip (Nat.succ_le_succ hroom) hinside

end Xml.Place

namespace Sample

/-- Lenient options with a bound on the nesting. -/
def lenient (depth : Nat) : Options :=
  { Sample.options .lastWins .skip with limits := ⟨depth, 0, 0⟩ }

/-- A type with a sequence, which goes down to depth four, and after it an element without a name,
which goes further. -/
def uneven : Place :=
  schema
    (element "complexType" 2 [("name", "T")]
      (element "sequence" 3 [] (element "element" 4 [("name", "a")] .empty .empty) .empty)
      (element "element" 5 []
        (element "complexType" 6 []
          (element "sequence" 7 [] (element "element" 8 [("name", "b")] .empty .empty) .empty)
          .empty)
        .empty))

/-- The element without a name does not count, so a bound of four will do, but none of three. -/
theorem fold_of_lenient_of_uneven :
    (lenient 4).duplicateKeys = .lastWins ∧ (lenient 4).missingIdentifier = .skip ∧
      (uneven.fold .standard (lenient 4) [] .empty).result = .ok () ∧
      (∀ other depth, uneven.Visits StandardRule.ofKind? 1 other depth → depth ≤ 4) ∧
      (uneven.fold .standard (lenient 3) [] .empty).result =
        .error (.limitExceeded (.depth 4 3)) ∧
      ¬ ∀ other depth, uneven.Visits StandardRule.ofKind? 1 other depth → depth ≤ 3 := by
  have hok : (uneven.fold .standard (lenient 4) [] .empty).result = .ok () := rfl
  have herror : (uneven.fold .standard (lenient 3) [] .empty).result =
      .error (.limitExceeded (.depth 4 3)) := rfl
  have hfour := (Xml.Place.fold_of_lenient StandardRule.ofKind? (lenient 4) rfl rfl [] uneven
    .empty).1
  have hthree := (Xml.Place.fold_of_lenient StandardRule.ofKind? (lenient 3) rfl rfl [] uneven
    .empty).1
  refine ⟨rfl, rfl, hok, hfour.mp hok, herror, fun h => ?_⟩
  exact absurd ((hthree.mpr h).symm.trans herror) (by simp)

end Sample

end SchemaFold
