import SchemaFold.Proofs.Context.Nested
import SchemaFold.Proofs.Context.Reordered
import SchemaFold.Proofs.Context.Written
import SchemaFold.Proofs.Invariant
/-!
Contexts as maps with an order of keys, under any calls.

There are three ways to write to a context, which differ in what may be in their way, and one of
them hands out a context of its own to go on with. However often and however deep this is done, what
comes out is what a map would hold that keeps its keys in the order in which they were first
written.

* `Context.Call`, `Context.Calls`: a call, and calls with those on the contexts they hand out;
* `Context.Call.perform_eq`: all that a call does;
* `Context.Calls.run_eq_putAll`: calls leave what is written by those that are not refused;
* `Context.Calls.steps`: the single calls at all levels, in the order in which they are made;
* `Context.Calls.run_ordered`: the statement for calls on an empty context;
* `Fold.context_nest`, `Xml.Place.fold_eq_run`: folds write by such calls.
-/

namespace SchemaFold

namespace Context

/-! ### Calls -/

/-- Puts a new context under a key, if one may go there. -/
def insertContext (c : Context) (key : String) (replace : Bool) : NestedAnswer × Context :=
  match c.admits key replace with
  | .occupied => (.occupied, c)
  | .inserted => (.inserted, c.putNested key .empty)
  | .replaced => (.replaced, c.putNested key .empty)

/-- A way to write to a context. -/
inductive Call
  | setScalar (key text : String)
  | setScalarChecked (key text : String) (replace : Bool)
  | insertContext (key : String) (replace : Bool)

/-- What became of a call: nothing was in its way, or something was, which has been replaced or else
left as it was. Nothing is ever in the way of a text that is written without a check. -/
inductive Call.Outcome
  | fresh
  | replaced
  | occupied
  deriving DecidableEq, Repr

def ScalarAnswer.outcome : ScalarAnswer → Call.Outcome
  | .set => .fresh
  | .replaced => .replaced
  | .occupied => .occupied

def NestedAnswer.outcome : NestedAnswer → Call.Outcome
  | .inserted => .fresh
  | .replaced => .replaced
  | .occupied => .occupied

namespace Call

def key : Call → String
  | setScalar key _ => key
  | setScalarChecked key _ _ => key
  | insertContext key _ => key

/-- What becomes of a call, and the context that it leaves. -/
def perform (c : Context) : Call → Outcome × Context
  | setScalar key text => (.fresh, c.setScalar key text)
  | setScalarChecked key text replace =>
    ((c.setScalarChecked key text replace).1.outcome, (c.setScalarChecked key text replace).2)
  | insertContext key replace =>
    ((c.insertContext key replace).1.outcome, (c.insertContext key replace).2)

/-- The context that a call hands out. -/
def handedOut? (c : Context) : Call → Option Context
  | setScalar _ _ => none
  | setScalarChecked _ _ _ => none
  | insertContext key replace =>
    match c.insertContext key replace with
    | (.occupied, _) => none
    | (_, next) => next.context? key

/-- Makes a call, and does something to the context that it hands out, where this stands. -/
def complete (fill : Context → Context) (c : Context) (call : Call) : Context :=
  match call.handedOut? c with
  | some child => (call.perform c).2.putNested call.key (fill child)
  | none => (call.perform c).2

end Call

/-- Calls one after the other. Each comes with the calls that are made on the context it hands out,
which are left out if there is none. -/
inductive Calls
  | done
  | call (first : Call) (inner rest : Calls)

namespace Calls

/-- Makes calls on a context. -/
def run : Calls → Context → Context
  | .done, c => c
  | .call first inner rest, c => rest.run (first.complete inner.run c)

/-- One lot of calls and then another. -/
def append : Calls → Calls → Calls
  | .done, later => later
  | .call first inner rest, later => .call first inner (rest.append later)

theorem run_append (calls later : Calls) (c : Context) :
    (calls.append later).run c = later.run (calls.run c) := by
  induction calls generalizing c with
  | done => rfl
  | call first inner rest _ ih => exact ih _

end Calls

/-! ### One call -/

namespace Call

variable {c : Context} {call : Call} {fill : Context → Context}

/-- A call finds something in its way: a text that is written with a check a context, and a new
context anything. -/
def IsBlocked (c : Context) : Call → Prop
  | setScalar _ _ => False
  | setScalarChecked key _ _ => ∃ inner, c.get? key = some (.context inner)
  | insertContext key _ => key ∈ c.keys

/-- A call may replace what is in its way. -/
def replaces : Call → Bool
  | setScalar _ _ => true
  | setScalarChecked _ _ replace => replace
  | insertContext _ replace => replace

/-- What a call writes, given what becomes of the context that it hands out. -/
def value (inner : Context) : Call → Value
  | setScalar _ text => .scalar text
  | setScalarChecked _ text _ => .scalar text
  | insertContext _ _ => .context inner

/-- **All that a call does.** -/
theorem perform_eq (c : Context) (call : Call) :
    (¬ call.IsBlocked c ∧ call.perform c = (.fresh, c.put call.key (call.value .empty))) ∨
      (call.IsBlocked c ∧ call.replaces = true ∧
        call.perform c = (.replaced, c.put call.key (call.value .empty))) ∨
      (call.IsBlocked c ∧ call.replaces = false ∧ call.perform c = (.occupied, c)) := by
  cases call with
  | setScalar key text => exact .inl ⟨id, rfl⟩
  | setScalarChecked key text replace =>
    rw [perform]
    by_cases hfree : c.context? key = none
    · refine .inl ⟨fun ⟨inner, hinner⟩ => context?_eq_none_iff.mp hfree inner hinner, ?_⟩
      rw [setScalarChecked_of_free hfree]
      rfl
    · obtain ⟨inner, hinner⟩ := Option.ne_none_iff_exists'.mp hfree
      have hblocked : ∃ inner, c.get? key = some (.context inner) :=
        ⟨inner, context?_eq_some_iff.mp hinner⟩
      rw [setScalarChecked_of_taken hfree]
      cases replace with
      | true => exact .inr (.inl ⟨hblocked, rfl, rfl⟩)
      | false => exact .inr (.inr ⟨hblocked, rfl, rfl⟩)
  | insertContext key replace =>
    rw [perform, Context.insertContext]
    by_cases hfree : c.get? key = none
    · rw [admits_of_free hfree]
      exact .inl ⟨get?_eq_none_iff.mp hfree, rfl⟩
    · have hblocked : key ∈ c.keys := get?_ne_none_iff.mp hfree
      rw [admits_of_taken hfree]
      cases replace with
      | true => exact .inr (.inl ⟨hblocked, rfl, rfl⟩)
      | false => exact .inr (.inr ⟨hblocked, rfl, rfl⟩)

theorem occupied_iff :
    (call.perform c).1 = .occupied ↔ call.IsBlocked c ∧ call.replaces = false := by
  rcases perform_eq c call with ⟨h, hperform⟩ | ⟨h, hreplaces, hperform⟩ | ⟨h, hreplaces, hperform⟩
  · simp [hperform, h]
  · simp [hperform, hreplaces]
  · simp [hperform, h, hreplaces]

theorem replaced_iff :
    (call.perform c).1 = .replaced ↔ call.IsBlocked c ∧ call.replaces = true := by
  rcases perform_eq c call with ⟨h, hperform⟩ | ⟨h, hreplaces, hperform⟩ | ⟨h, hreplaces, hperform⟩
  · simp [hperform, h]
  · simp [hperform, h, hreplaces]
  · simp [hperform, hreplaces]

/-- A call that is refused leaves the context as it is. -/
theorem perform_of_occupied (h : (call.perform c).1 = .occupied) : (call.perform c).2 = c := by
  rcases perform_eq c call with ⟨-, hperform⟩ | ⟨-, -, hperform⟩ | ⟨-, -, hperform⟩
  · rw [hperform] at h
    exact absurd h (by simp)
  · rw [hperform] at h
    exact absurd h (by simp)
  · rw [hperform]

/-- Any other call writes its value. -/
theorem perform_of_ne_occupied (h : (call.perform c).1 ≠ .occupied) :
    (call.perform c).2 = c.put call.key (call.value .empty) := by
  rcases perform_eq c call with ⟨-, hperform⟩ | ⟨-, -, hperform⟩ | ⟨-, -, hperform⟩
  · rw [hperform]
  · rw [hperform]
  · exact absurd (congrArg Prod.fst hperform) h

/-- A new context finds its place if the key is free or may be taken. -/
theorem insertContext_ne_occupied {key : String} {replace : Bool}
    (hroom : replace = true ∨ c.get? key = none) :
    ((insertContext key replace).perform c).1 ≠ .occupied := by
  intro hoccupied
  obtain ⟨hblocked, hreplaces⟩ := occupied_iff.mp hoccupied
  have hfree : c.get? key = none :=
    hroom.resolve_left fun h => absurd (h.symm.trans hreplaces) (by simp)
  exact get?_eq_none_iff.mp hfree hblocked

/-- A new context that finds its place is handed out, empty. -/
theorem handedOut?_insertContext {key : String} {replace : Bool}
    (h : ((insertContext key replace).perform c).1 ≠ .occupied) :
    (insertContext key replace).handedOut? c = some .empty := by
  have hnext : ((insertContext key replace).perform c).2 = c.putNested key .empty :=
    perform_of_ne_occupied h
  rw [perform] at h hnext
  rw [handedOut?]
  rcases hinsert : c.insertContext key replace with ⟨answer, next⟩
  rw [hinsert] at h hnext
  obtain rfl : next = c.putNested key .empty := hnext
  cases answer with
  | occupied => exact absurd rfl h
  | inserted => exact context?_putNested_self c key .empty
  | replaced => exact context?_putNested_self c key .empty

/-- A call that is refused hands out nothing. -/
theorem handedOut?_of_occupied (h : (call.perform c).1 = .occupied) :
    call.handedOut? c = none := by
  cases call with
  | setScalar key text => rfl
  | setScalarChecked key text replace => rfl
  | insertContext key replace =>
    rw [perform] at h
    rw [handedOut?]
    rcases hinsert : c.insertContext key replace with ⟨_ | _ | _, next⟩
    · rw [hinsert] at h
      exact absurd h (by simp [NestedAnswer.outcome])
    · rw [hinsert] at h
      exact absurd h (by simp [NestedAnswer.outcome])
    · rfl

/-- What is handed out is empty, whatever it takes the place of. It stands under the key of the
call, which writes a context. -/
theorem eq_of_handedOut? {child : Context} (h : call.handedOut? c = some child) :
    child = .empty ∧ (call.perform c).2.get? call.key = some (.context .empty) ∧
      ∀ inner, call.value inner = .context inner := by
  cases call with
  | setScalar key text => exact absurd h (by simp [handedOut?])
  | setScalarChecked key text replace => exact absurd h (by simp [handedOut?])
  | insertContext key replace =>
    have hne : ((insertContext key replace).perform c).1 ≠ .occupied := fun hoccupied =>
      absurd ((handedOut?_of_occupied hoccupied).symm.trans h) (by simp)
    refine ⟨?_, ?_, fun _ => rfl⟩
    · exact (Option.some_inj.mp ((handedOut?_insertContext hne).symm.trans h)).symm
    · rw [perform_of_ne_occupied hne, get?_put, if_pos rfl]
      rfl

theorem complete_of_occupied (h : (call.perform c).1 = .occupied) :
    call.complete fill c = c := by
  rw [complete, handedOut?_of_occupied h]
  exact perform_of_occupied h

/-- **A call that is not refused writes one value**: its text, or what is made of an empty
context. -/
theorem complete_of_ne_occupied (h : (call.perform c).1 ≠ .occupied) :
    call.complete fill c = c.put call.key (call.value (fill .empty)) := by
  rw [complete, perform_of_ne_occupied h]
  rcases hchild : call.handedOut? c with _ | child
  · cases call with
    | setScalar key text => rfl
    | setScalarChecked key text replace => rfl
    | insertContext key replace =>
      exact absurd ((handedOut?_insertContext h).symm.trans hchild) (by simp)
  · obtain ⟨rfl, -, hvalue⟩ := eq_of_handedOut? hchild
    rw [hvalue, hvalue]
    exact put_put_self c call.key _ _

theorem distinct_perform (h : c.Distinct) : (call.perform c).2.Distinct := by
  by_cases hoccupied : (call.perform c).1 = .occupied
  · rwa [perform_of_occupied hoccupied]
  · rw [perform_of_ne_occupied hoccupied]
    refine h.put call.key ?_
    cases call <;> exact trivial

theorem distinct_complete (h : c.Distinct) (hfill : (fill .empty).Distinct) :
    (call.complete fill c).Distinct := by
  rw [complete]
  rcases hchild : call.handedOut? c with _ | child
  · exact distinct_perform h
  · rw [(eq_of_handedOut? hchild).1]
    exact (distinct_perform h).put call.key hfill

end Call

/-! ### What is left -/

namespace Calls

/-- What is written by the calls that are not refused, in order. With a new context this is what its
own calls make of an empty one. -/
def written : Calls → Context → List (String × Value)
  | .done, _ => []
  | .call first inner rest, c =>
    let later := rest.written (first.complete inner.run c)
    if (first.perform c).1 = .occupied then later
    else (first.key, first.value (inner.run .empty)) :: later

/-- **Calls leave what is written by those that are not refused.** -/
theorem run_eq_putAll (calls : Calls) (c : Context) :
    calls.run c = c.putAll (calls.written c) := by
  induction calls generalizing c with
  | done => rfl
  | call first inner rest _ ih =>
    rw [run, written, ih]
    by_cases hoccupied : (first.perform c).1 = .occupied
    · rw [if_pos hoccupied, Call.complete_of_occupied hoccupied]
    · rw [if_neg hoccupied, Call.complete_of_ne_occupied hoccupied]
      rfl

theorem distinct_run (calls : Calls) {c : Context} (h : c.Distinct) : (calls.run c).Distinct := by
  induction calls generalizing c with
  | done => exact h
  | call first inner rest ihInner ih => exact ih (Call.distinct_complete h (ihInner trivial))

end Calls

/-! ### Single calls at all levels -/

/-- A call that has been made: on the context `level`, to which a path of keys leads, in a structure
that was `before` and is `after`. -/
structure Step where
  path : List String
  call : Call
  level : Context
  before : Context
  after : Context

namespace Step

/-- What became of the call. -/
def outcome (step : Step) : Call.Outcome := (step.call.perform step.level).1

/-- A call made on a context that stands under a key of an outer one. -/
def under (outer : Context) (key : String) (step : Step) : Step :=
  { step with
    path := key :: step.path
    before := outer.putNested key step.before
    after := outer.putNested key step.after }

/-- A call has been made at its place in a structure without double keys, and as it should. It was
refused just if there was something in its way that it may not replace, and then the whole structure
is as before. It has replaced something just if this was in its way and might be replaced. A new
context that it has put somewhere is handed out, and is empty there. -/
structure Sound (step : Step) : Prop where
  before : step.before.at? step.path = some step.level
  after : step.after.at? step.path = some (step.call.perform step.level).2
  distinct : step.before.Distinct ∧ step.after.Distinct
  occupied : step.outcome = .occupied ↔
    step.call.IsBlocked step.level ∧ step.call.replaces = false
  unchanged : step.outcome = .occupied → step.after = step.before
  replaced : step.outcome = .replaced ↔
    step.call.IsBlocked step.level ∧ step.call.replaces = true
  handedOut (key : String) (replace : Bool) : step.call = .insertContext key replace →
    step.outcome ≠ .occupied → step.call.handedOut? step.level = some .empty ∧
      step.after.at? (step.path ++ [key]) = some .empty

/-- A call on a context as a whole. -/
theorem sound_of_whole {c : Context} (h : c.Distinct) (call : Call) :
    Sound ⟨[], call, c, c, (call.perform c).2⟩ where
  before := rfl
  after := rfl
  distinct := ⟨h, Call.distinct_perform h⟩
  occupied := Call.occupied_iff
  unchanged := Call.perform_of_occupied
  replaced := Call.replaced_iff
  handedOut key replace hcall hne := by
    obtain rfl : call = .insertContext key replace := hcall
    have hafter : ((Call.insertContext key replace).perform c).2 = c.putNested key .empty :=
      Call.perform_of_ne_occupied hne
    refine ⟨Call.handedOut?_insertContext hne, ?_⟩
    show (((Call.insertContext key replace).perform c).2).at? [key] = some .empty
    rw [hafter, at?_cons_of_context? (context?_putNested_self c key .empty)]
    rfl

/-- A call on a context inside another one. -/
theorem Sound.under {step : Step} (h : step.Sound) {outer : Context} (houter : outer.Distinct)
    (key : String) : (step.under outer key).Sound where
  before := (at?_cons_of_context? (context?_putNested_self ..) _).trans h.before
  after := (at?_cons_of_context? (context?_putNested_self ..) _).trans h.after
  distinct := ⟨houter.put key h.distinct.1, houter.put key h.distinct.2⟩
  occupied := h.occupied
  unchanged hoccupied := congrArg (outer.putNested key) (h.unchanged hoccupied)
  replaced := h.replaced
  handedOut key' replace hcall hne := by
    obtain ⟨hchild, hempty⟩ := h.handedOut key' replace hcall hne
    exact ⟨hchild, (at?_cons_of_context? (context?_putNested_self ..) _).trans hempty⟩

end Step

namespace Calls

/-- The single calls that are made on a context and on those that are handed out. -/
def steps : Calls → Context → List Step
  | .done, _ => []
  | .call first inner rest, c =>
    let next := (first.perform c).2
    let insideSteps := match first.handedOut? c with
      | some child => (inner.steps child).map (Step.under next first.key)
      | none => []
    ⟨[], first, c, c, next⟩ :: (insideSteps ++ rest.steps (first.complete inner.run c))

theorem sound_of_mem_steps (calls : Calls) {c : Context} (h : c.Distinct) :
    ∀ step ∈ calls.steps c, step.Sound := by
  induction calls generalizing c with
  | done => exact fun _ hstep => absurd hstep List.not_mem_nil
  | call first inner rest ihInner ih =>
    intro step hstep
    rw [steps, List.mem_cons, List.mem_append] at hstep
    obtain rfl | hinside | hrest := hstep
    · exact Step.sound_of_whole h first
    · rcases hchild : first.handedOut? c with _ | child
      · rw [hchild] at hinside
        exact absurd hinside List.not_mem_nil
      · rw [hchild] at hinside
        obtain ⟨step, hstep, rfl⟩ := List.mem_map.mp hinside
        obtain ⟨rfl, -⟩ := Call.eq_of_handedOut? hchild
        have hsound : ∀ step ∈ inner.steps .empty, step.Sound := ihInner trivial
        exact (hsound step hstep).under (Call.distinct_perform h) first.key
    · exact ih (Call.distinct_complete h (inner.distinct_run trivial)) step hrest

/-- **Each call is made on what the one before has left**, the first on what there was and the last
leaving what there is. -/
theorem steps_linked (calls : Calls) (c : Context) :
    c :: (calls.steps c).map Step.after = (calls.steps c).map Step.before ++ [calls.run c] := by
  induction calls generalizing c with
  | done => rfl
  | call first inner rest ihInner ih =>
    rw [steps, run, List.map_cons, List.map_cons, List.map_append, List.map_append,
      List.cons_append, List.append_assoc, ← ih]
    rcases hchild : first.handedOut? c with _ | child
    · have hcomplete : first.complete inner.run c = (first.perform c).2 := by
        rw [Call.complete, hchild]
      rw [hcomplete]
      rfl
    · obtain ⟨rfl, hempty, -⟩ := Call.eq_of_handedOut? hchild
      have hcomplete : first.complete inner.run c =
          (first.perform c).2.putNested first.key (inner.run .empty) := by
        rw [Call.complete, hchild]
      -- the calls inside begin with the empty context in its place
      have hnext : (first.perform c).2.putNested first.key .empty = (first.perform c).2 :=
        put_eq_self hempty
      have hinside := congrArg (List.map ((first.perform c).2.putNested first.key))
        (ihInner .empty)
      rw [List.map_cons, List.map_append, List.map_map, List.map_map, hnext] at hinside
      rw [hcomplete, List.append_cons, List.map_map, List.map_map]
      exact congrArg (fun steps => c :: (steps ++ _)) hinside

/-- **Contexts are maps that keep the order of their keys.** Let any calls be made on an empty
context and on those handed out by it, at any depth. Then no level has a key twice, also between the
calls. The keys are in the order in which they were first written, whatever has been replaced since,
and under each is what was written last by a call that was not refused: a text, or the context that
was handed out as the calls on it have left it. These begin with an empty context, so all this is so
for them again. Each single call does what it should at its place in the whole. -/
theorem run_ordered (calls : Calls) :
    let final := calls.run .empty
    let written := calls.written .empty
    let steps := calls.steps .empty
    final.Distinct ∧ final.keys = (written.map Prod.fst).eraseDups ∧
      (∀ earlier key value later, written = earlier ++ (key, value) :: later →
        key ∉ later.map Prod.fst → final.get? key = some value) ∧
      Context.empty :: steps.map Step.after = steps.map Step.before ++ [final] ∧
      ∀ step ∈ steps, step.Sound := by
  intro final written steps
  have hfinal : final = Context.empty.putAll written := calls.run_eq_putAll .empty
  refine ⟨calls.distinct_run trivial, ?_, ?_, calls.steps_linked .empty,
    calls.sound_of_mem_steps trivial⟩
  · rw [hfinal]
    exact keys_putAll_empty written
  · intro earlier key value later hwritten hlater
    rw [hfinal, hwritten]
    exact get?_putAll_of_last hlater .empty earlier value

/-- A key keeps its place when a context takes that of a text, and a call that is refused leaves the
context that is there. -/
example :
    (Calls.call (.setScalar "a" "1") .done
      (.call (.insertContext "b" false) (.call (.setScalar "x" "2") .done .done)
        (.call (.insertContext "a" true) .done
          (.call (.insertContext "b" false) (.call (.setScalar "y" "3") .done .done)
            .done)))).run .empty =
      .nested "a" .empty (.nested "b" (.scalar "x" "2" .empty) .empty) := by
  decide

end Calls

end Context

/-! ### Folds -/

/-- An element that gets a context of its own is folded into the one that a call hands out. -/
theorem Fold.context_nest (replaces : Bool) (site : Site) (key : String) (fill : Context → Run)
    (c : Context) :
    (nest replaces site key fill c).context =
      (Context.Call.insertContext key replaces).complete (fun inner => (fill inner).context) c := by
  by_cases hroom : replaces = true ∨ c.get? key = none
  · obtain ⟨events, hevents⟩ := nest_eq_under hroom site fill
    have hplaced := Context.Call.insertContext_ne_occupied hroom
    rw [hevents, Context.Call.complete_of_ne_occupied hplaced]
    rfl
  · rw [not_or, Bool.not_eq_true] at hroom
    have hblocked : key ∈ c.keys := Context.get?_ne_none_iff.mp hroom.2
    have hoccupied : ((Context.Call.insertContext key replaces).perform c).1 = .occupied :=
      Context.Call.occupied_iff.mpr ⟨hblocked, hroom.1⟩
    rw [Context.Call.complete_of_occupied hoccupied, nest_of_taken hroom.2, hroom.1]
    rfl

/-- All that is ever done to a context is calls. -/
theorem Fold.invariant_calls (options : Options) :
    Fold.Invariant options
      (fun _ c run => ∃ calls : Context.Calls, run.context = calls.run c) where
  stay _ c _ _ := ⟨.done, rfl⟩
  write _ c key text _ := ⟨.call (.setScalar key text) .done .done, rfl⟩
  put := by
    rintro depth c key run log hroom - ⟨inside, hinside⟩
    have hplaced := Context.Call.insertContext_ne_occupied hroom
    refine ⟨.call (.insertContext key options.replaces) inside .done, ?_⟩
    rw [Context.Calls.run, Context.Calls.run, Context.Call.complete_of_ne_occupied hplaced,
      ← hinside]
    rfl
  andThen := by
    rintro depth c first next ⟨before, hbefore⟩ hnext
    rcases hresult : first.result with e | _
    · exact ⟨before, by rw [Run.andThen_of_error hresult, hbefore]⟩
    · obtain ⟨after, hafter⟩ := hnext hresult
      refine ⟨before.append after, ?_⟩
      rw [Run.andThen_of_ok hresult, Context.Calls.run_append, ← hbefore, ← hafter]
  outward h := h

/-- **A fold writes by calls**, whatever the hooks of its table do and however it ends. -/
theorem Xml.Place.fold_eq_run (table : RuleTable) (options : Options) (ignored : List String)
    (place : Xml.Place) (c : Context) :
    ∃ calls : Context.Calls, (place.fold table options ignored c).context = calls.run c :=
  (place.fold_holds (Fold.invariant_calls options) table ignored).holds c

end SchemaFold
