import SchemaFold.Proofs.Ending
import SchemaFold.Proofs.Sample
/-!
Which element a fold names if an identifier is missing.

A fold that may replace constructs, and that keeps the bound on the nesting, can only fail on an
element without an identifier. It goes through the tree in document order, into whatever context, so
the element that the error names is the first of this kind in that order.

* `Xml.Content.nesting`, `Xml.Place.nesting`: how deep a tree is;
* `Xml.Place.descendants`: the places below a place, in document order;
* `Xml.Place.isUnnamed`: the elements that lack an identifier;
* `Xml.Content.error?_eq_find?`: the error for a tree is that of the first of them;
* `Xml.Place.fold_of_unnamed`: the statement for folds.
-/

namespace SchemaFold

open Xml (Content Place StartTag)

/-! ### Depth and document order -/

/-- How many elements of a content stand in one another, at most. -/
def Xml.Content.nesting : Content → Nat
  | .empty => 0
  | .element _ inside after => max (inside.nesting + 1) after.nesting
  | .text _ _ after => after.nesting
  | .comment _ _ after => after.nesting
  | .instruction _ after => after.nesting

namespace Xml.Place

/-- The depth of the tree at a place, which is itself at depth one. -/
def nesting (place : Place) : Nat := place.inside.nesting + 1

/-- The places below a place, in document order. -/
def descendants (place : Place) : List Place := descendantsFrom place 0 place.inside

/-- An element that lacks an identifier. -/
def isUnnamed (choose : ElementKind → Option StandardRule) (place : Place) : Bool :=
  place.start?.any (lacksIdentifier choose (place.parent?.bind name?))

/-- The error that names a place. -/
def unnamedError (place : Place) : Error := .missingIdentifier place.localName place.location

end Xml.Place

/-! ### Errors -/

section
variable {choose : ElementKind → Option StandardRule} {options : Options}

/-- **The error for a content is that of the first element without an identifier**, if no element is
too deep. -/
theorem Xml.Content.error?_eq_find? (hmissing : options.missingIdentifier = .reject)
    (content : Content) (parent : Place) (depth number : Nat)
    (hdepth : depth + content.nesting ≤ options.limits.depth + 1) :
    content.error? choose options parent.name? depth =
      ((Place.descendantsFrom parent number content).find? (Place.isUnnamed choose)).map
        Place.unnamedError := by
  induction content generalizing parent depth number with
  | empty => rfl
  | element start inside after ihInside ihAfter =>
    rw [nesting] at hdepth
    have hhere : ¬ options.limits.depth < depth := by omega
    have hinside := ihInside (.child parent number (.element start inside)) (depth + 1) 0 (by omega)
    have hafter := ihAfter parent depth (number + 1) (by omega)
    rw [error?, Place.descendantsFrom, List.find?_cons, List.find?_append, hafter]
    rcases hlacks : lacksIdentifier choose parent.name? start with _ | _
    · -- the element passes, so the first error is inside, or else after it
      have hnamed : Place.isUnnamed choose (.child parent number (.element start inside)) =
          false := hlacks
      have hunder : inside.error? choose options (some start.name) (depth + 1) = _ := hinside
      rw [hnamed, if_neg Bool.false_ne_true, Options.depthError?, if_neg hhere, Option.none_or,
        hunder, Option.map_or]
    · have hunnamed :
          Place.isUnnamed choose (.child parent number (.element start inside)) = true := hlacks
      rw [hunnamed, if_pos rfl, Options.unnamedError?, hmissing]
      rfl
  | text value position after ih => exact ih parent depth (number + 1) hdepth
  | comment value position after ih => exact ih parent depth (number + 1) hdepth
  | instruction position after ih => exact ih parent depth (number + 1) hdepth

/-! ### Folds -/

namespace Xml.Place

/-- A fold that may replace constructs in a tree that is not too deep ends with the first element
without an identifier. -/
theorem result_fold_eq_find? (hkeys : options.duplicateKeys = .lastWins)
    (hmissing : options.missingIdentifier = .reject) {place : Place}
    (hdepth : place.nesting ≤ options.limits.depth) (ignored : List String) (c : Context) :
    (place.fold (.ofStandard choose) options ignored c).result =
      (place.descendants.find? (isUnnamed choose)).elim (.ok ())
        (fun other => .error other.unnamedError) := by
  rw [nesting] at hdepth
  have hhere : ¬ options.limits.depth < 1 := by omega
  have hinside : 2 + place.inside.nesting ≤ options.limits.depth + 1 := by omega
  rw [place.result_fold_of_lastWins hkeys, error?, Options.depthError?, if_neg hhere,
    Option.none_or, place.inside.error?_eq_find? hmissing place 2 0 hinside]
  show ((place.descendants.find? (isUnnamed choose)).map unnamedError).elim _ _ = _
  rcases place.descendants.find? (isUnnamed choose) with _ | other
  · rfl
  · rfl

/-- **An error for a missing identifier names the first element without one.** If later constructs
replace earlier ones, identifiers must not be missing, and the tree is not too deep, a fold fails
just if some element below its place lacks an identifier; and the error is that of the first such
element in document order. -/
theorem fold_of_unnamed (choose : ElementKind → Option StandardRule) (options : Options)
    (hkeys : options.duplicateKeys = .lastWins) (hmissing : options.missingIdentifier = .reject)
    (ignored : List String) (place : Place) (hdepth : place.nesting ≤ options.limits.depth)
    (c : Context) :
    let run := place.fold (.ofStandard choose) options ignored c
    (run.result ≠ .ok () ↔ ∃ other ∈ place.descendants, other.isUnnamed choose = true) ∧
      ∀ before offender after, place.descendants = before ++ offender :: after →
        (∀ other ∈ before, other.isUnnamed choose = false) → offender.isUnnamed choose = true →
        run.result = .error (.missingIdentifier offender.localName offender.location) := by
  intro run
  have hresult : run.result = _ := result_fold_eq_find? hkeys hmissing hdepth ignored c
  refine ⟨?_, fun before offender after hbelow hbefore hoffender => ?_⟩
  · rw [hresult]
    rcases hfound : place.descendants.find? (isUnnamed choose) with _ | other
    · simpa using List.find?_eq_none.mp hfound
    · have hmem := List.mem_of_find?_eq_some hfound
      have hother := List.find?_some hfound
      simpa using ⟨other, hmem, hother⟩
  · have hfirst : place.descendants.find? (isUnnamed choose) = some offender := by
      refine List.find?_eq_some_iff_append.mpr ⟨hoffender, before, after, hbelow, fun other h => ?_⟩
      rw [hbefore other h]
      rfl
    rw [hresult, hfirst]
    rfl

end Xml.Place

end

namespace Sample

/-- An element with two types without a name: the first is its own, the second is in a sequence and
needs a name. Before them are an element of no namespace without a name and a construct that is
there twice, after them is another element without a name. -/
def twoUnnamed : Place :=
  schema
    (.element ⟨⟨none, "element"⟩, [], ⟨2, 1⟩⟩ .empty
      (element "group" 3 [("name", "a")] .empty
        (element "element" 4 [("name", "a")]
          (element "complexType" 5 []
            (element "sequence" 6 []
              (element "simpleType" 7 [("name", " ")] .empty .empty) .empty) .empty)
          (element "element" 8 [] .empty .empty))))

/-- It is the type in the sequence that the error names. -/
theorem fold_of_unnamed_of_twoUnnamed :
    let rules := options .lastWins .reject
    rules.duplicateKeys = .lastWins ∧ rules.missingIdentifier = .reject ∧
      twoUnnamed.nesting ≤ rules.limits.depth ∧
      (∃ other ∈ twoUnnamed.descendants, other.isUnnamed StandardRule.ofKind? = true) ∧
      (twoUnnamed.fold .standard rules [] .empty).result =
        .error (.missingIdentifier "simpleType" ⟨7, 1⟩) := by
  intro rules
  have hdepth : twoUnnamed.nesting ≤ rules.limits.depth := by decide
  obtain ⟨hfails, hfirst⟩ :=
    twoUnnamed.fold_of_unnamed StandardRule.ofKind? rules rfl rfl [] hdepth .empty
  have herror := hfirst (twoUnnamed.descendants.take 5) _ (twoUnnamed.descendants.drop 6) rfl
    (by decide) rfl
  have hnamed : ∃ other ∈ twoUnnamed.descendants, other.isUnnamed StandardRule.ofKind? = true := by
    refine hfails.mp fun hok => ?_
    exact absurd (hok.symm.trans herror) (by simp)
  exact ⟨rfl, rfl, hdepth, hnamed, herror⟩

end Sample

end SchemaFold
