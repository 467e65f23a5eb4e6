import SchemaFold.Proofs.Context.Overlay
import SchemaFold.Proofs.Plan.Standard
import SchemaFold.Proofs.Sample
import SchemaFold.Proofs.Write
/-!
A fold does not depend on the context that it starts from.

Under built-in rules, a fold onto a context leaves the overlay of two contexts: the one it starts
from, and on top of it the one that the same fold leaves when it starts from nothing. This holds for
every fold that may replace constructs, also if it ends in an error, and for every other fold that
comes to its end.

* `Run.IsOver`: one run leaves on top of a context what another leaves on its own;
* `Plan.exec_isOver`: plans carried out on an overlay and on its upper part are such runs;
* `Xml.Place.fold_overlay`: the statement for folds.
-/

namespace SchemaFold

open Xml (Attribute Content Place StartTag)

/-- One run leaves on top of `base` what another run leaves on its own, and ends in the same way. -/
structure Run.IsOver (base : Context) (onto own : Run) : Prop where
  result : onto.result = own.result
  context : onto.context = base.overlay own.context
  nodup : own.context.keys.Nodup

namespace Run

variable {base e : Context} {onto own : Run}

theorem IsOver.andThen {nextOver nextOwn : Context → Run} (h : IsOver base onto own)
    (hnext : onto.result = .ok () →
      IsOver base (nextOver (base.overlay own.context)) (nextOwn own.context)) :
    IsOver base (onto.andThen nextOver) (own.andThen nextOwn) := by
  rcases hover : onto.result with e | _
  · rw [andThen_of_error hover, andThen_of_error (h.result ▸ hover)]
    exact h
  · have hlater := hnext hover
    rw [andThen_of_ok hover, andThen_of_ok (h.result ▸ hover), h.context]
    exact ⟨hlater.result, hlater.context, hlater.nodup⟩

/-- The same entry written to an overlay and to its upper part. -/
theorem isOver_put (he : e.keys.Nodup) (key : String) (value : Value)
    (eventsOver eventsOwn : List Event) (result : Except Error Unit) :
    IsOver base ⟨(base.overlay e).put key value, eventsOver, result⟩
      ⟨e.put key value, eventsOwn, result⟩ :=
  ⟨rfl, (Context.overlay_put he base key value).symm, Context.nodup_keys_put he⟩

end Run

namespace Fold

variable {replaces : Bool} {base e : Context} {key : String}

/-- What is free in an overlay is free in its upper part. -/
theorem get?_ne_of_overlay {value : Value} (he : e.keys.Nodup)
    (h : (base.overlay e).get? key ≠ some value) : e.get? key ≠ some value := by
  intro hget
  rw [Context.get?_overlay he, hget] at h
  exact h (Option.some_or ..)

theorem writeScalar_isOver (he : e.keys.Nodup) (site : Site) (entry : String × String)
    (h : replaces = true ∨ (writeScalar replaces site entry (base.overlay e)).result = .ok ()) :
    Run.IsOver base (writeScalar replaces site entry (base.overlay e))
      (writeScalar replaces site entry e) := by
  have hover : replaces = true ∨ (base.overlay e).context? entry.1 = none :=
    h.elim Or.inl writeScalar_result_eq_ok.mp
  have hown : replaces = true ∨ e.context? entry.1 = none := by
    refine hover.imp_right fun hfree => ?_
    rw [Context.context?_eq_none_iff] at hfree ⊢
    exact fun inner => get?_ne_of_overlay he (hfree inner)
  obtain ⟨eventsOver, hoverRun⟩ := writeScalar_eq_report hover site
  obtain ⟨eventsOwn, hownRun⟩ := writeScalar_eq_report hown site
  rw [hoverRun, hownRun]
  exact Run.isOver_put he entry.1 _ eventsOver eventsOwn _

theorem nest_isOver (he : e.keys.Nodup) (site : Site) (fill : Context → Run)
    (h : replaces = true ∨ (nest replaces site key fill (base.overlay e)).result = .ok ()) :
    Run.IsOver base (nest replaces site key fill (base.overlay e))
      (nest replaces site key fill e) := by
  have hover : replaces = true ∨ (base.overlay e).get? key = none :=
    h.elim Or.inl fun hok => (nest_result_eq_ok.mp hok).1
  have hown : replaces = true ∨ e.get? key = none := by
    refine hover.imp_right fun hfree => ?_
    rw [Context.get?_overlay he, Option.or_eq_none_iff] at hfree
    exact hfree.1
  obtain ⟨eventsOver, hoverRun⟩ := nest_eq_under hover site fill
  obtain ⟨eventsOwn, hownRun⟩ := nest_eq_under hown site fill
  rw [hoverRun, hownRun]
  exact Run.isOver_put he key _ _ _ _

end Fold

/-- **A plan leaves on an overlay what it leaves on the upper part**, if it may replace constructs
or comes to its end. -/
theorem Plan.exec_isOver {replaces : Bool} (p : Plan) {base e : Context} (he : e.keys.Nodup)
    (h : replaces = true ∨ (p.exec replaces (base.overlay e)).result = .ok ()) :
    Run.IsOver base (p.exec replaces (base.overlay e)) (p.exec replaces e) := by
  induction p generalizing e with
  | done => exact ⟨rfl, rfl, he⟩
  | fail error => exact ⟨rfl, rfl, he⟩
  | note event rest ih =>
    have hown := ih he (h.imp_right fun hok => (Run.result_andThen_eq_ok.mp hok).2)
    exact ⟨hown.result, hown.context, hown.nodup⟩
  | copy key text rest ih =>
    rw [exec, Context.setScalar, ← Context.overlay_put he] at h ⊢
    exact ih (Context.nodup_keys_put he) h
  | scalar site key text rest ih =>
    rw [exec] at h
    -- the text is written to both, and the rest goes on from an overlay again
    have hwrite := Fold.writeScalar_isOver he site (key, text)
      (h.imp_right fun hok => (Run.result_andThen_eq_ok.mp hok).1)
    refine hwrite.andThen fun hok => ih hwrite.nodup (h.imp_right fun hall => ?_)
    rw [← hwrite.context]
    exact (Run.result_andThen_eq_ok.mp hall).2
  | nested site key inner rest _ ih =>
    rw [exec] at h
    -- the inside is filled from nothing in both, so it is the same
    have hnest := Fold.nest_isOver he site (inner.exec replaces)
      (h.imp_right fun hok => (Run.result_andThen_eq_ok.mp hok).1)
    refine hnest.andThen fun hok => ih hnest.nodup (h.imp_right fun hall => ?_)
    rw [← hnest.context]
    exact (Run.result_andThen_eq_ok.mp hall).2

/-- **Folds do not depend on where they start.** A fold under built-in rules that may replace
constructs, or that comes to its end, ends like the same fold of an empty context and leaves that
one's context laid over its own: first the keys that were there, then the new ones, each key with
the value of the empty fold if it has one, and else with its old value. A fold that may replace
constructs and comes to its end changes nothing when it is repeated. -/
theorem Xml.Place.fold_overlay (choose : ElementKind → Option StandardRule) (options : Options)
    (ignored : List String) (place : Place) (c : Context)
    (h : options.duplicateKeys = .lastWins ∨
      (place.fold (.ofStandard choose) options ignored c).result = .ok ()) :
    let fold := place.fold (.ofStandard choose) options ignored
    let run := fold c
    let fresh := (fold .empty).context
    run.result = (fold .empty).result ∧
      run.context = c.overlay fresh ∧
      run.context.keys = c.keys ++ fresh.keys.filter (· ∉ c.keys) ∧
      (∀ key, run.context.get? key = (fresh.get? key).or (c.get? key)) ∧
      (options.duplicateKeys = .lastWins → run.result = .ok () →
        (fold run.context).result = .ok () ∧ (fold run.context).context = run.context) := by
  intro fold run fresh
  have hexec : ∀ start, fold start =
      (place.plan (.ofStandard choose) options ignored).exec options.replaces start :=
    fun start => place.fold_eq_exec (RuleTable.isBlind_ofStandard choose) options ignored start
  have hover : ∀ start, options.duplicateKeys = .lastWins ∨ (fold start).result = .ok () →
      Run.IsOver start (fold start) (fold .empty) := by
    intro start hstart
    rw [hexec] at hstart ⊢
    rw [hexec]
    refine Plan.exec_isOver (e := .empty) _ List.nodup_nil (hstart.imp_left fun hlast => ?_)
    rw [Options.replaces, hlast]
    rfl
  obtain ⟨hresult, hcontext, hnodup⟩ := hover c h
  refine ⟨hresult, hcontext, ?_, fun key => ?_, fun hlast hok => ?_⟩
  · rw [hcontext]
    exact Context.keys_overlay hnodup c
  · rw [hcontext]
    exact Context.get?_overlay hnodup c key
  · -- the second time all that is written is there already
    obtain ⟨hagain, hagainContext, _⟩ := hover run.context (Or.inl hlast)
    refine ⟨by rw [hagain, ← hresult, hok], ?_⟩
    rw [hagainContext, hcontext]
    exact Context.overlay_overlay_self hnodup c

namespace Sample

/-- A schema on top of a context that has a text in the place of a construct, and on top of one that
has other keys. -/
theorem fold_overlay_of_schema :
    let replacing := options .lastWins .reject
    let rejecting := options .reject .reject
    let place := schema (element "element" 2 [("name", "X"), ("type", "string")] .empty .empty)
    let clashing := (Context.empty.setScalar "X" "old").setScalar "Y" "kept"
    let apart := Context.empty.setScalar "Y" "kept"
    let fresh := (Context.empty.putNested "X" (Context.empty.setScalar "type" "string"))
    replacing.duplicateKeys = .lastWins ∧
      (place.fold .standard replacing [] clashing).context = clashing.overlay fresh ∧
      (place.fold .standard replacing [] clashing).context.keys = ["X", "Y"] ∧
      (place.fold .standard rejecting [] apart).result = .ok () ∧
      (place.fold .standard rejecting [] apart).context = apart.overlay fresh := by
  intro replacing rejecting place clashing apart fresh
  have hok : (place.fold .standard rejecting [] apart).result = .ok () := rfl
  obtain ⟨_, hclashing, hkeys, _⟩ :=
    place.fold_overlay StandardRule.ofKind? replacing [] clashing (Or.inl rfl)
  obtain ⟨_, hapart, _⟩ :=
    place.fold_overlay StandardRule.ofKind? rejecting [] apart (Or.inr hok)
  exact ⟨rfl, hclashing, hkeys, hok, hapart⟩

end Sample

end SchemaFold
