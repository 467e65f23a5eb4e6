import SchemaFold.Config.Basic
import SchemaFold.Proofs.Path.Walk
import SchemaFold.Proofs.Plan.Report
import SchemaFold.Proofs.Sample
import SchemaFold.Schema
/-!
Bindings of users and what they cannot change.

Binding prefixes never touches the reserved one. A fold goes along paths without prefixes, and the
root of a schema is looked for under the reserved prefix. So nothing that is made of a document
depends on the prefixes that a user has bound.

* `Bindings.Reachable`: bindings that users can make, one after the other;
* `Bindings.Reachable.head?_toList`: the reserved prefix comes first and stands for XML Schema;
* `Xml.Place.fold_withBindings`: a fold does not depend on the bindings;
* `Schema.roots_of_reachable`: the root of a document counts if it is a schema;
* `Schema.model_of_reachable`: the statement for models.
-/

namespace SchemaFold

open Xml (Content Document Misc Node Place)

/-! ### The reserved prefix -/

namespace Bindings

/-- The bindings that come from the standard ones by binding prefixes one after the other. -/
inductive Reachable : Bindings → Prop
  | standard : Reachable .standard
  | bind {b : Bindings} (h : Reachable b) (pfx uri : String) : Reachable (b.bind pfx uri)

theorem Reachable.foldl_bind {b : Bindings} (h : b.Reachable) (pairs : List (String × String)) :
    (pairs.foldl (fun b pair => b.bind pair.1 pair.2) b).Reachable := by
  induction pairs generalizing b with
  | nil => exact h
  | cons pair rest ih => exact ih (h.bind pair.1 pair.2)

theorem reachable_ofList (pairs : List (String × String)) : (ofList pairs).Reachable :=
  Reachable.standard.foldl_bind pairs

/-- The reports about the reserved prefix change nothing about the bindings. -/
theorem result_ofListReported (pairs : List (String × String)) :
    (ofListReported pairs).result = .ok (ofList pairs) := by
  have hfrom : ∀ b : Bindings,
      (pairs.foldlM (fun (b : Bindings) pair => b.bindReported pair.1 pair.2) b : Act _).result =
        .ok (pairs.foldl (fun b pair => b.bind pair.1 pair.2) b) := by
    induction pairs with
    | nil => exact fun _ => rfl
    | cons pair rest ih =>
      intro b
      rw [List.foldlM_cons, List.foldl_cons]
      exact ih (b.bind pair.1 pair.2)
  exact hfrom standard

/-- Binding a prefix keeps the reserved one in front. -/
theorem head?_bind {b : Bindings} (h : b.toList.head? = some (reservedPrefix, xsdNamespace))
    (pfx uri : String) :
    (b.bind pfx uri).toList.head? = some (reservedPrefix, xsdNamespace) := by
  rw [bind]
  split
  · rename_i hcan
    have hother : reservedPrefix ≠ pfx := by
      rintro rfl
      exact absurd hcan (by decide)
    obtain ⟨entries⟩ := b
    obtain ⟨rest, rfl⟩ := List.head?_eq_some_iff.mp h
    show (Keyed.put pfx uri ((reservedPrefix, xsdNamespace) :: rest)).head? = _
    rw [Keyed.put, if_neg hother]
    rfl
  · exact h

/-- **The reserved prefix always comes first**, and it stands for XML Schema. -/
theorem Reachable.head?_toList {b : Bindings} (h : b.Reachable) :
    b.toList.head? = some (reservedPrefix, xsdNamespace) := by
  induction h with
  | standard => rfl
  | bind _ pfx uri ih => exact head?_bind ih pfx uri

theorem Reachable.uri?_reservedPrefix {b : Bindings} (h : b.Reachable) :
    b.uri? reservedPrefix = some xsdNamespace := by
  have hhead := h.head?_toList
  obtain ⟨entries⟩ := b
  obtain ⟨rest, rfl⟩ := List.head?_eq_some_iff.mp hhead
  show Keyed.get? reservedPrefix ((reservedPrefix, xsdNamespace) :: rest) = _
  rw [Keyed.get?, if_pos rfl]

end Bindings

/-! ### Folds -/

/-- The options with other bindings. -/
def Options.withBindings (options : Options) (bindings : Bindings) : Options :=
  { options with bindings := bindings }

section
variable {choose : ElementKind → Option StandardRule} {options : Options} {bindings : Bindings}

theorem Xml.Content.plan_withBindings (content : Content) (parent : Place) (depth number : Nat) :
    content.plan (.ofStandard choose) (options.withBindings bindings) parent depth number =
      content.plan (.ofStandard choose) options parent depth number := by
  induction content generalizing parent depth number with
  | empty => rfl
  | element start inside after ihInside ihAfter =>
    -- the rules look at the policies only, and the way in at the bounds only
    rw [plan, plan, Plan.dispatch_ofStandard, Plan.dispatch_ofStandard, ihAfter]
    simp only [ihInside]
    rfl
  | text value position after ih => exact ih parent depth (number + 1)
  | comment value position after ih => exact ih parent depth (number + 1)
  | instruction position after ih => exact ih parent depth (number + 1)

/-- **A fold under built-in rules does not depend on the bindings.** -/
theorem Xml.Place.fold_withBindings (ignored : List String) (place : Place) :
    place.fold (.ofStandard choose) (options.withBindings bindings) ignored =
      place.fold (.ofStandard choose) options ignored := by
  have hplan : place.plan (.ofStandard choose) (options.withBindings bindings) ignored =
      place.plan (.ofStandard choose) options ignored := by
    rw [plan, plan, place.inside.plan_withBindings]
    rfl
  funext c
  rw [fold_eq_exec (RuleTable.isBlind_ofStandard choose),
    fold_eq_exec (RuleTable.isBlind_ofStandard choose), hplan]
  rfl

end

/-! ### The root of a document -/

namespace Schema

theorem isPlain_schemaRoot : Path.schemaRoot.IsPlain := by
  intro step hstep pfx hpfx
  rw [List.mem_singleton.mp hstep] at hpfx
  exact (Option.some.inj hpfx).symm

/-- No name test keeps what stands beside the root. -/
theorem filter_childrenFrom_misc (bindings : Bindings) (pfx : Option String)
    (localName : String) (parent : Place) (misc : List Misc) (content : Content) (number : Nat) :
    (Place.childrenFrom parent number ((misc.map Misc.node).foldr Content.cons content)).filter
        (Path.NodeTest.keepsNode bindings (.name pfx localName)) =
      (Place.childrenFrom parent (number + misc.length) content).filter
        (Path.NodeTest.keepsNode bindings (.name pfx localName)) := by
  induction misc generalizing number with
  | nil => rfl
  | cons item rest ih =>
    have hnumber : number + (item :: rest).length = number + 1 + rest.length := by
      rw [List.length_cons]
      omega
    rw [hnumber, ← ih (number + 1)]
    cases item with
    | comment value position => rfl
    | instruction position => rfl

theorem roots_standard (document : Document) :
    roots .standard document =
      if document.root.name.isXsd "schema" then [document.rootPlace] else [] := by
  have hmisc := filter_childrenFrom_misc .standard (some Bindings.reservedPrefix) "schema"
    (.top document)
  have hroot : Path.NodeTest.keepsNode .standard (.name (some Bindings.reservedPrefix) "schema")
      document.rootPlace = document.root.name.isXsd "schema" := by
    show (document.root.name == ⟨some xsdNamespace, "schema"⟩) = _
    rw [Bool.eq_iff_iff, beq_iff_eq, ExpandedName.isXsd_iff]
  show (Path.Query.follow .standard [⟨.child, .name (some Bindings.reservedPrefix) "schema"⟩]
    (.top document)).filterMap Path.Match.place? = _
  rw [Path.follow_child, Path.filterMap_place?_map_node]
  show (Place.childrenFrom (.top document) 0 document.content).filter _ = _
  -- of the nodes before the root, the root and the nodes after it only the root may be kept
  rw [Document.content, hmisc, Nat.zero_add, Place.childrenFrom, List.filter_cons,
    Content.ofNodes, hmisc]
  show (if Path.NodeTest.keepsNode .standard (.name (some Bindings.reservedPrefix) "schema")
    document.rootPlace = true then [document.rootPlace] else []) = _
  rw [hroot]

/-- **The root of a document counts if it is a schema**, whatever prefixes are bound. -/
theorem roots_of_reachable {bindings : Bindings} (h : bindings.Reachable) (document : Document) :
    roots bindings document =
      if document.root.name.isXsd "schema" then [document.rootPlace] else [] := by
  have hreserved : bindings.uri? Bindings.reservedPrefix =
      Bindings.standard.uri? Bindings.reservedPrefix := h.uri?_reservedPrefix
  rw [← roots_standard, roots, roots,
    Path.Query.select_congr isPlain_schemaRoot hreserved (.top document)]

end Schema

/-! ### Models -/

/-- What is left by a run that has come to its end, as a model. -/
def Run.model (run : Run) : Act Model := ⟨run.log, run.result.map (fun _ => ⟨run.context⟩)⟩

theorem Run.model_result_eq_ok {run : Run} {made : Model} :
    run.model.result = .ok made ↔ run.result = .ok () ∧ ⟨run.context⟩ = made := by
  rw [model]
  rcases run.result with e | _
  · simp [Except.map]
  · simp [Except.map]

namespace Schema

variable {choose : ElementKind → Option StandardRule} {table : RuleTable} {options : Options}
  {document : Document}

/-- A document with a schema in it: its model is what folding this into an empty context leaves. -/
theorem model_of_roots (hattributes : checkAttributes options.limits document = .ok ())
    {place : Place} {rest : List Place} (hroots : roots options.bindings document = place :: rest) :
    model table options document = (foldAll table options (place :: rest) .empty).model := by
  rw [model, hattributes, hroots]
  -- there is a root, so the last check lets it pass
  show Act.andThen (.ofExcept (.ok ())) (fun _ =>
    Act.andThen ⟨(foldAll table options (place :: rest) .empty).log,
      (foldAll table options (place :: rest) .empty).result⟩ (fun _ =>
        .done (⟨(foldAll table options (place :: rest) .empty).context⟩ : Model))) = _
  rcases foldAll table options (place :: rest) .empty with ⟨context, log, e | _⟩
  · rfl
  · show (⟨[] ++ (log ++ []), .ok ⟨context⟩⟩ : Act Model) = ⟨log, .ok ⟨context⟩⟩
    rw [List.append_nil, List.nil_append]

/-- A document whose root is no schema has no model. -/
theorem model_of_no_roots (hattributes : checkAttributes options.limits document = .ok ())
    (hroots : roots options.bindings document = []) :
    model table options document = .fail (notSchema document) := by
  rw [model, hattributes, hroots]
  rfl

/-- A document with too many attributes somewhere has no model. -/
theorem model_of_error {e : Error}
    (hattributes : checkAttributes options.limits document = .error e) :
    model table options document = .fail e := by
  rw [model, hattributes]
  rfl

/-- A fold never finds that a root is no schema. -/
theorem result_model_ne_notSchema (ignored : List String) (place : Place) (c : Context) :
    (place.fold (.ofStandard choose) options ignored c).model.result ≠
      .error (notSchema document) := by
  intro h
  rcases hresult : (place.fold (.ofStandard choose) options ignored c).result with e | _
  · rw [Run.model, hresult] at h
    have he : e = notSchema document := Except.error.inj h
    subst he
    -- a fold ends at a bound, for want of an identifier, or at a duplicate key
    rcases Place.error_fold hresult with ⟨_, h⟩ | ⟨_, _, _, h⟩ | ⟨_, _, _, _, h⟩
    · exact Error.noConfusion h
    · exact Error.noConfusion h
    · exact Error.noConfusion h
  · rw [Run.model, hresult] at h
    exact absurd h (by simp [Except.map])

/-- The model of a document as it comes from its root: the attributes are counted, the root has to
be a schema, and this is folded once. -/
def modelOfRoot (table : RuleTable) (options : Options) (document : Document) : Act Model :=
  match checkAttributes options.limits document with
  | .error e => .fail e
  | .ok () =>
    if document.root.name.isXsd "schema" then
      (document.rootPlace.fold table options [] .empty).model
    else .fail (notSchema document)

/-- **What becomes of a document** depends on its root alone. -/
theorem model_eq_of_reachable (h : options.bindings.Reachable) :
    model table options document = modelOfRoot table options document := by
  rw [modelOfRoot]
  have hroots := roots_of_reachable h document
  rcases hattributes : checkAttributes options.limits document with e | _
  · exact model_of_error hattributes
  · by_cases hschema : document.root.name.isXsd "schema" = true
    · rw [if_pos hschema] at hroots
      have hone : foldAll table options [document.rootPlace] .empty =
          document.rootPlace.fold table options [] .empty := Run.andThen_done _
      have hmodel : model table options document = _ := model_of_roots hattributes hroots
      rw [hone] at hmodel
      exact hmodel.trans (if_pos hschema).symm
    · rw [if_neg hschema] at hroots
      exact (model_of_no_roots hattributes hroots).trans (if_neg hschema).symm

/-- **Bindings of users do not count.** Whatever prefixes are bound, the reserved one comes first
and stands for XML Schema, a fold goes along paths without prefixes, and a document has the same
model as under any other such bindings. If its attributes are not too many, it has none just if its
root is no schema; else its model is that of one fold of the root into an empty context. -/
theorem model_of_reachable (choose : ElementKind → Option StandardRule) (options : Options)
    {bindings other : Bindings} (hbindings : bindings.Reachable) (hother : other.Reachable)
    (document : Document) :
    (∀ pairs, (Bindings.ofListReported pairs).result = .ok (.ofList pairs) ∧
      (Bindings.ofList pairs).Reachable) ∧
    (bindings.toList.head? = some (Bindings.reservedPrefix, xsdNamespace) ∧
      bindings.uri? Bindings.reservedPrefix = some xsdNamespace) ∧
    Fold.GoesAlongPaths (.ofStandard choose) (options.withBindings bindings) ∧
    model (.ofStandard choose) (options.withBindings bindings) document =
      model (.ofStandard choose) (options.withBindings other) document ∧
    (checkAttributes options.limits document = .ok () →
      ((model (.ofStandard choose) (options.withBindings bindings) document).result =
          .error (notSchema document) ↔ document.root.name.isXsd "schema" = false) ∧
      (document.root.name.isXsd "schema" = true →
        model (.ofStandard choose) (options.withBindings bindings) document =
          (document.rootPlace.fold (.ofStandard choose) (options.withBindings bindings) []
            .empty).model)) := by
  have hmodel : ∀ b : Bindings, b.Reachable →
      model (.ofStandard choose) (options.withBindings b) document =
        modelOfRoot (.ofStandard choose) options document := by
    intro b hb
    have hreachable : (options.withBindings b).bindings.Reachable := hb
    rw [model_eq_of_reachable hreachable, modelOfRoot, modelOfRoot, Place.fold_withBindings]
    rfl
  refine ⟨fun pairs => ⟨Bindings.result_ofListReported pairs, Bindings.reachable_ofList pairs⟩,
    ⟨hbindings.head?_toList, hbindings.uri?_reservedPrefix⟩, Fold.goesAlongPaths _ _,
    (hmodel bindings hbindings).trans (hmodel other hother).symm, fun hattributes => ?_⟩
  rw [hmodel bindings hbindings, modelOfRoot, hattributes, Place.fold_withBindings]
  refine ⟨?_, fun hschema => if_pos hschema⟩
  by_cases hschema : document.root.name.isXsd "schema" = true
  · simp only [hschema, if_true, Bool.true_eq_false, iff_false]
    exact result_model_ne_notSchema [] document.rootPlace .empty
  · simp only [hschema, if_false, Bool.false_eq_true]
    exact iff_of_true rfl trivial

end Schema

namespace Sample

/-- A user who binds the reserved prefix and gives XML Schema another one: neither counts. -/
theorem model_of_reachable_of_pairs :
    let bindings := Bindings.ofList [("xs", "urn:other"), ("p", xsdNamespace), ("p", "urn:p")]
    let rules := options .reject .reject
    let document : Document := ⟨[.instruction ⟨1, 1⟩], ⟨⟨some xsdNamespace, "schema"⟩, [], ⟨2, 1⟩⟩,
      element "element" 3 [("name", "X")] .empty .empty, []⟩
    bindings.toList = [("xs", xsdNamespace), ("p", "urn:p")] ∧
      Schema.checkAttributes rules.limits document = .ok () ∧
      Schema.model .standard (rules.withBindings bindings) document =
        Schema.model .standard (rules.withBindings .standard) document ∧
      (Schema.model .standard (rules.withBindings bindings) document).result =
        .ok ⟨.nested "X" .empty .empty⟩ := by
  intro bindings rules document
  have hbindings : bindings.Reachable := Bindings.reachable_ofList _
  have hattributes : Schema.checkAttributes rules.limits document = .ok () := rfl
  have hschema : document.root.name.isXsd "schema" = true := by decide
  obtain ⟨_, _, _, hsame, hmodel⟩ := Schema.model_of_reachable StandardRule.ofKind? rules hbindings
    .standard document
  refine ⟨by decide, hattributes, hsame, ?_⟩
  have hfold := (hmodel hattributes).2 hschema
  refine (congrArg Act.result hfold).trans ?_
  rfl

end Sample

end SchemaFold
