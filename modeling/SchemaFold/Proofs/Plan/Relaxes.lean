import SchemaFold.Proofs.Plan.Congruence
import SchemaFold.Proofs.Write
/-!
Plans that go on where others end.

* `Plan.Relaxes`: one plan does what another does, but may do anything where the other ends in an
  error of some kind;
* `Plan.Relaxes.enter_of_kept`: so it is with the plans of an element if the bound on the nesting is
  easier to keep for the second;
* `Plan.exec_eq_of_relaxes`: if no such error ends the run, both plans make the same run.
-/

namespace SchemaFold

open Xml (Attribute Place)

/-- The error of a bound that is not kept. -/
def Error.IsLimit (e : Error) : Prop := ∃ fault, e = .limitExceeded fault

namespace Plan

/-- The second plan is the first, but for what comes in place of errors for which `E` holds. -/
inductive Relaxes (E : Error → Prop) : Plan → Plan → Prop
  | done : Relaxes E .done .done
  | fail (e : Error) : Relaxes E (.fail e) (.fail e)
  | goOn {e : Error} (he : E e) (q : Plan) : Relaxes E (.fail e) q
  | note (event : Event) {p q : Plan} : Relaxes E p q → Relaxes E (.note event p) (.note event q)
  | copy (key text : String) {p q : Plan} :
    Relaxes E p q → Relaxes E (.copy key text p) (.copy key text q)
  | scalar (site : Site) (key text : String) {p q : Plan} :
    Relaxes E p q → Relaxes E (.scalar site key text p) (.scalar site key text q)
  | nested (site : Site) (key : String) {inner inner' p q : Plan} :
    Relaxes E inner inner' → Relaxes E p q →
      Relaxes E (.nested site key inner p) (.nested site key inner' q)

variable {E : Error → Prop} {p p' q q' : Plan} {replaces : Bool} {c : Context}

namespace Relaxes

theorem refl (p : Plan) : Relaxes E p p := by
  induction p with
  | done => exact .done
  | fail e => exact .fail e
  | note event rest ih => exact .note event ih
  | copy key text rest ih => exact .copy key text ih
  | scalar site key text rest ih => exact .scalar site key text ih
  | nested site key inner rest ihInner ih => exact .nested site key ihInner ih

theorem append (hp : Relaxes E p p') (hq : Relaxes E q q') : Relaxes E (p ++ q) (p' ++ q') := by
  induction hp with
  | done => exact hq
  | fail e => exact .fail e
  | goOn he _ => exact .goOn he _
  | note event _ ih => exact .note event ih
  | copy key text _ ih => exact .copy key text ih
  | scalar site key text _ ih => exact .scalar site key text ih
  | nested site key hinner _ _ ih => exact .nested site key hinner ih

theorem isCongruence (E : Error → Prop) : IsCongruence (Relaxes E) where
  refl := refl
  append := append
  nested site key _ _ _ _ hinner h := .nested site key hinner h

theorem descend (site : Site) (descent : Descent) (h : Relaxes E p q)
    (closing : List (String × String)) :
    Relaxes E (descend site descent p closing) (descend site descent q closing) :=
  (isCongruence E).descend h site descent closing

theorem enter (options : Options) (ignored : List String) (attributes : List Attribute)
    (depth : Nat) (h : Relaxes E p q) :
    Relaxes E (enter options ignored attributes depth p)
      (Plan.enter options ignored attributes depth q) :=
  (isCongruence E).enter h options ignored attributes depth

/-- What keeps one bound on the nesting at one depth also keeps another at another. -/
theorem enter_of_kept {options options' : Options} {depth depth' : Nat}
    (hkept : depth ≤ options.limits.depth → depth' ≤ options'.limits.depth)
    (h : Relaxes Error.IsLimit p q) (ignored : List String) (attributes : List Attribute) :
    Relaxes Error.IsLimit (Plan.enter options ignored attributes depth p)
      (Plan.enter options' ignored attributes depth' q) := by
  rw [Plan.enter, Plan.enter, Limits.checkDepth, Limits.checkDepth]
  by_cases hover : options.limits.depth < depth
  · rw [if_pos hover]
    exact .goOn ⟨_, rfl⟩ _
  · have hinside : depth' ≤ options'.limits.depth := hkept (by omega)
    rw [if_neg hover, if_neg (Nat.not_lt.mpr hinside)]
    exact (refl _).append h

end Relaxes

/-! ### Runs -/

/-- An error in one of two runs is the error of both together. -/
theorem not_error_of_andThen {run : Run} {next : Context → Run}
    (h : ∀ e, E e → (run.andThen next).result ≠ .error e) :
    (∀ e, E e → run.result ≠ .error e) ∧
      (run.result = .ok () → ∀ e, E e → (next run.context).result ≠ .error e) := by
  refine ⟨fun e he hrun => h e he ?_, fun hok e he hnext => h e he ?_⟩
  · rw [Run.andThen_of_error hrun, hrun]
  · rw [Run.andThen_of_ok hok, hnext]

/-- **Where no error of the kind comes up, the relaxed plan makes the same run.** -/
theorem exec_eq_of_relaxes (h : Relaxes E p q)
    (hrun : ∀ e, E e → (p.exec replaces c).result ≠ .error e) :
    q.exec replaces c = p.exec replaces c := by
  induction h generalizing c with
  | done => rfl
  | fail e => rfl
  | goOn he q => exact absurd rfl (hrun _ he)
  | note event _ ih =>
    obtain ⟨_, hrest⟩ := not_error_of_andThen hrun
    exact Run.andThen_congr fun hok => ih (hrest hok)
  | copy key text _ ih => exact ih hrun
  | scalar site key text _ ih =>
    obtain ⟨_, hrest⟩ := not_error_of_andThen hrun
    exact Run.andThen_congr fun hok => ih (hrest hok)
  | @nested site key inner inner' p q _ _ ihInner ih =>
    obtain ⟨hnest, hrest⟩ := not_error_of_andThen hrun
    -- if there is no room the inside does not count, and else its error is that of the whole
    have hsame : Fold.nest replaces site key (inner'.exec replaces) c =
        Fold.nest replaces site key (inner.exec replaces) c := by
      refine Fold.nest_congr site fun hroom => ihInner fun e he hinner => hnest e he ?_
      obtain ⟨events, hevents⟩ := Fold.nest_eq_under hroom site (inner.exec replaces)
      rw [hevents, Run.under, hinner]
    rw [exec, exec, hsame]
    exact Run.andThen_congr fun hok => ih (hrest hok)

end Plan

end SchemaFold
