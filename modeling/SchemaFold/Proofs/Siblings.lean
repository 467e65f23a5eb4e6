import SchemaFold.Proofs.Plan.Entries
import SchemaFold.Proofs.Reordering
/-!
Siblings under the same key.

The children of a schema are constructs with an identifier, each in a context of its own. Each of
them may be all right alone; what can go wrong is that two want the same key, or that one wants the
key of an attribute.

* `Xml.Place.around`: an element with a single child, and without attributes;
* `Plan.Entry.ofConstruct`: what is written for a construct;
* `Plan.haveRoom_constructs`: constructs have room just if their keys are new and distinct;
* `Xml.Place.fold_agree_of_alone`: constructs that are all right alone are written as entries;
* `Xml.Place.fold_siblings`: what becomes of an element whose children are all constructs, from what
  becomes of it with each child alone.
-/

namespace SchemaFold

open Xml (Attribute Content Place StartTag)

/-- The element with this start tag at a place, without its attributes and with one child only. -/
def Xml.Place.around (parent : Place) (number : Nat) (start : StartTag)
    (child : StartTag × Content) : Place :=
  .child parent number
    (.element { start with attributes := [] } (.element child.1 child.2 .empty))

/-! ### Entries for constructs -/

namespace Plan

/-- What is written for a construct at a depth. -/
def Entry.ofConstruct (options : Options) (depth : Nat) (child : StartTag × Content) : Entry :=
  .construct child.1.site child.1.key (Plan.ofConstruct options depth child)

variable {options : Options} {depth : Nat}

theorem writes_eq_ofEntries {content : Content}
    (h : ∀ child ∈ content.elements, child.1.isConstruct = true) (declared : Bool) :
    content.writes StandardRule.ofKind? options declared depth =
      ofEntries (content.elements.map (Entry.ofConstruct options depth)) := by
  rw [Content.writes_eq_inOrder, ofEntries, List.map_map]
  refine congrArg inOrder (List.map_congr_left fun child hchild => ?_)
  exact forElement_of_isConstruct (h child hchild) options declared depth

theorem keys_written_constructs (replaces : Bool) (children : List (StartTag × Content)) :
    ((children.map (Entry.ofConstruct options depth)).map (Entry.written replaces)).map Prod.fst =
      children.map (·.1.key) := by
  rw [List.map_map, List.map_map]
  rfl

/-- **Constructs have room** just if their keys are new and distinct. -/
theorem haveRoom_constructs {c : Context} {children : List (StartTag × Content)} :
    HaveRoom c (children.map (Entry.ofConstruct options depth)) ↔
      (children.map (·.1.key)).Nodup ∧ ∀ child ∈ children, child.1.key ∉ c.keys := by
  have hfits : ∀ child, (Entry.ofConstruct options depth child).Fits c ↔ child.1.key ∉ c.keys :=
    fun child => Entry.fits_construct.trans Context.get?_eq_none_iff
  constructor
  · rintro ⟨hroom, hcompatible⟩
    refine ⟨?_, fun child hchild => (hfits child).mp (hroom _ (List.mem_map_of_mem hchild))⟩
    exact List.pairwise_map.mpr ((List.pairwise_map.mp hcompatible).imp fun h heq => (h heq).1)
  · rintro ⟨hnodup, hnew⟩
    refine ⟨?_, List.pairwise_map.mpr ((List.pairwise_map.mp hnodup).imp fun h heq => (h heq).elim)⟩
    rintro _ hentry
    obtain ⟨child, hchild, rfl⟩ := List.mem_map.mp hentry
    exact (hfits child).mpr (hnew child hchild)

/-- Beside attributes constructs have room just if none has the key of another one or of an
attribute. -/
theorem haveRoom_beside_attributes {ignored : List String} {attributes : List Attribute}
    {children : List (StartTag × Content)} :
    HaveRoom (Context.empty.copyAttributes ignored attributes)
        (children.map (Entry.ofConstruct options depth)) ↔
      (children.map (·.1.key)).Nodup ∧
        ∀ key ∈ children.map (·.1.key), key ∉ (Context.copied ignored attributes).map Prod.fst := by
  rw [haveRoom_constructs, List.forall_mem_map, Context.copyAttributes_eq_putAll,
    Context.keys_putAll_empty]
  simp only [List.mem_eraseDups]

/-- There is room for one more construct just if its key is that of no attribute and of no other. -/
theorem haveRoom_append_construct {ignored : List String} {attributes : List Attribute}
    {before : List (StartTag × Content)} {child : StartTag × Content}
    (hroom : HaveRoom (Context.empty.copyAttributes ignored attributes)
      (before.map (Entry.ofConstruct options depth))) :
    HaveRoom (Context.empty.copyAttributes ignored attributes)
        (before.map (Entry.ofConstruct options depth) ++ [Entry.ofConstruct options depth child]) ↔
      ¬ (child.1.key ∈ (Context.copied ignored attributes).map Prod.fst ∨
        child.1.key ∈ before.map (·.1.key)) := by
  obtain ⟨hnodup, hfree⟩ := haveRoom_beside_attributes.mp hroom
  rw [← List.map_singleton, ← List.map_append, haveRoom_beside_attributes, List.map_append,
    List.map_singleton, List.nodup_append, not_or]
  constructor
  · rintro ⟨⟨-, -, hdistinct⟩, hunnamed⟩
    exact ⟨hunnamed _ (by simp), fun hkey => hdistinct _ hkey _ (by simp) rfl⟩
  · rintro ⟨hunnamed, hnew⟩
    refine ⟨⟨hnodup, by simp, ?_⟩, ?_⟩
    · rintro key hkey _ hchild rfl
      exact hnew (List.mem_singleton.mp hchild ▸ hkey)
    · intro key hkey
      rcases List.mem_append.mp hkey with hbefore | hchild
      · exact hfree key hbefore
      · exact List.mem_singleton.mp hchild ▸ hunnamed

end Plan

/-! ### Folds -/

namespace Xml.Place

variable {options : Options} {ignored : List String} {parent : Place} {number : Nat}
  {start : StartTag} {inside : Content} {child : StartTag × Content}

/-- A fold writes the attributes of a place, and then its children one after the other. -/
theorem fold_agree_ofEntries (place : Place)
    (h : ∀ child ∈ place.inside.elements, child.1.isConstruct = true) (options : Options)
    (ignored : List String) (c : Context) :
    (place.fold .standard options ignored c).Agree
      (Fold.enter options ignored place.attributes 1
        ((Plan.ofEntries (place.inside.elements.map (Plan.Entry.ofConstruct options 2))).exec
          options.replaces) c) := by
  have hagree := place.fold_agree_writes StandardRule.ofKind? options ignored c
  rwa [writes, Plan.exec_enter, Plan.writes_eq_ofEntries h] at hagree

/-- A construct that is all right alone is not too deep and can be filled. All that it leaves is its
own context. -/
theorem fold_around (h : child.1.isConstruct = true)
    (hok : ((around parent number start child).fold .standard options ignored .empty).result =
      .ok ()) :
    1 ≤ options.limits.depth ∧ (Plan.Entry.ofConstruct options 2 child).Fills options.replaces ∧
      ((around parent number start child).fold .standard options ignored .empty).context =
        .nested child.1.key
          ((Plan.ofConstruct options 2 child).exec options.replaces .empty).context .empty := by
  let entry := Plan.Entry.ofConstruct options 2 child
  have hall : ∀ other ∈ (around parent number start child).inside.elements,
      other.1.isConstruct = true := by
    intro other hother
    obtain rfl := List.mem_singleton.mp hother
    exact h
  have hagree := fold_agree_ofEntries _ hall options ignored .empty
  rw [hagree.result] at hok
  have hdepth := Fold.le_of_enter_ok hok
  have hplan : Plan.ofEntries [entry] = entry.plan := Plan.append_done entry.plan
  -- without attributes and other children the fold writes this one entry
  have hrun : ((around parent number start child).fold .standard options ignored .empty).Agree
      (entry.plan.exec options.replaces .empty) := by
    rw [Fold.enter_of_le hdepth] at hagree
    exact hplan ▸ hagree
  have hfills : entry.Fills options.replaces :=
    Plan.Entry.fills_of_ok (hrun.result.symm.trans (hagree.result.trans hok))
  have hfits : entry.Fits .empty := Plan.Entry.fits_construct.mpr rfl
  exact ⟨hdepth, hfills, hrun.context.trans (Plan.Entry.exec_plan_of_fits (Or.inr hfits) hfills).2⟩

section
variable (hne : inside.elements ≠ [])
  (hconstructs : ∀ child ∈ inside.elements, child.1.isConstruct = true)
  (halone : ∀ child ∈ inside.elements,
    ((around parent number start child).fold .standard options ignored .empty).result = .ok ())
include hne hconstructs halone

/-- Siblings that are all right alone can all be filled, and are written after the attributes. -/
theorem fold_agree_of_alone :
    (∀ entry ∈ inside.elements.map (Plan.Entry.ofConstruct options 2),
      entry.Fills options.replaces) ∧
      ((Place.child parent number (.element start inside)).fold .standard options ignored
          .empty).Agree
        ((Plan.ofEntries (inside.elements.map (Plan.Entry.ofConstruct options 2))).exec
          options.replaces (Context.empty.copyAttributes ignored start.attributes)) := by
  obtain ⟨first, hfirst⟩ := List.exists_mem_of_ne_nil _ hne
  have hdepth := (fold_around (hconstructs first hfirst) (halone first hfirst)).1
  refine ⟨List.forall_mem_map.mpr fun child hchild => ?_, ?_⟩
  · exact (fold_around (hconstructs child hchild) (halone child hchild)).2.1
  · have hagree := fold_agree_ofEntries (.child parent number (.element start inside))
      hconstructs options ignored .empty
    rwa [Fold.enter_of_le hdepth] at hagree

/-- Siblings come to their end just if they may replace others or there is room for them. -/
theorem result_of_alone :
    ((Place.child parent number (.element start inside)).fold .standard options ignored
        .empty).result = .ok () ↔
      options.replaces = true ∨
        (inside.elements.map (·.1.key)).Nodup ∧ ∀ key ∈ inside.elements.map (·.1.key),
          key ∉ (Context.copied ignored start.attributes).map Prod.fst := by
  obtain ⟨hfills, hagree⟩ := fold_agree_of_alone hne hconstructs halone
  rw [hagree.result, Plan.result_ofEntries_eq_ok hfills, Plan.haveRoom_beside_attributes]

/-- Siblings that do not come to their end fail at the first one with the key of an attribute or of
an earlier one. -/
theorem error_of_alone
    (hfails : ((Place.child parent number (.element start inside)).fold .standard options ignored
      .empty).result ≠ .ok ()) :
    ∃ before child after, inside.elements = before ++ child :: after ∧
      (before.map (·.1.key)).Nodup ∧
      (∀ key ∈ before.map (·.1.key),
        key ∉ (Context.copied ignored start.attributes).map Prod.fst) ∧
      (child.1.key ∈ (Context.copied ignored start.attributes).map Prod.fst ∨
        child.1.key ∈ before.map (·.1.key)) ∧
      ((Place.child parent number (.element start inside)).fold .standard options ignored
          .empty).result =
        .error (.duplicateKey child.1.key child.1.name.localName child.1.position) := by
  obtain ⟨hfills, hagree⟩ := fold_agree_of_alone hne hconstructs halone
  rw [hagree.result] at hfails
  obtain ⟨_, _, _, hsplit, hroom, hmisfit, herror⟩ := Plan.exists_first_error hfills hfails
  obtain ⟨before, rest, hinside, rfl, hrest⟩ := List.map_eq_append_iff.mp hsplit
  obtain ⟨child, after, rfl, rfl, rfl⟩ := List.map_eq_cons_iff.mp hrest
  obtain ⟨hnodup, hfree⟩ := Plan.haveRoom_beside_attributes.mp hroom
  have htaken := Classical.not_not.mp (mt (Plan.haveRoom_append_construct hroom).mpr hmisfit)
  exact ⟨before, child, after, hinside, hnodup, hfree, htaken, hagree.result.trans herror⟩

/-- What siblings leave that come to their end: first the attributes, and then what each of them
writes, one after the other. -/
theorem context_of_alone
    (hok : ((Place.child parent number (.element start inside)).fold .standard options ignored
      .empty).result = .ok ()) :
    ((Place.child parent number (.element start inside)).fold .standard options ignored
        .empty).context =
      Context.empty.putAll (Context.copied ignored start.attributes ++
        (inside.elements.map (Plan.Entry.ofConstruct options 2)).map
          (Plan.Entry.written options.replaces)) := by
  obtain ⟨hfills, hagree⟩ := fold_agree_of_alone hne hconstructs halone
  have hroom := (Plan.result_ofEntries_eq_ok hfills).mp (hagree.result.symm.trans hok)
  rw [hagree.context, (Plan.exec_ofEntries hroom hfills).2, Context.copyAttributes_eq_putAll,
    Context.putAll_append]

end

/-- **Siblings under the same key.** All children of an element are constructs, and under the
built-in rules and from an empty context each of them is all right as the only child of the element
without its attributes.

If duplicate keys are rejected, the element is all right just if no two of the children have the
same key and none has the name of an attribute that is copied. Otherwise the first child with the
key of an earlier one or of an attribute is the duplicate.

If the last one wins, the element is all right. The keys stand in the order in which attributes and
children first bring them up, each once. Under the key of a child there is the context that the last
child with this key leaves as the only child, and under any other key there is the attribute. -/
theorem fold_siblings (options : Options) (ignored : List String) (parent : Place) (number : Nat)
    (start : StartTag) (inside : Content) (hne : inside.elements ≠ [])
    (hconstructs : ∀ child ∈ inside.elements, child.1.isConstruct = true)
    (halone : ∀ child ∈ inside.elements,
      ((around parent number start child).fold .standard options ignored .empty).result = .ok ()) :
    let run := (Place.child parent number (.element start inside)).fold .standard options ignored
      .empty
    let copied := Context.empty.copyAttributes ignored start.attributes
    let names := (Context.copied ignored start.attributes).map Prod.fst
    let keys := inside.elements.map (·.1.key)
    (options.duplicateKeys = .reject →
      (run.result = .ok () ↔ keys.Nodup ∧ ∀ key ∈ keys, key ∉ names) ∧
        (run.result ≠ .ok () → ∃ before child after, inside.elements = before ++ child :: after ∧
          (before.map (·.1.key)).Nodup ∧ (∀ key ∈ before.map (·.1.key), key ∉ names) ∧
          (child.1.key ∈ names ∨ child.1.key ∈ before.map (·.1.key)) ∧
          run.result =
            .error (.duplicateKey child.1.key child.1.name.localName child.1.position))) ∧
      (options.duplicateKeys = .lastWins → run.result = .ok ()) ∧
      (run.result = .ok () →
        run.context.keys = (names ++ keys).eraseDups ∧
        run.context.keys.Nodup ∧
        (∀ before child after, inside.elements = before ++ child :: after →
          child.1.key ∉ after.map (·.1.key) →
          ∃ inner,
            ((around parent number start child).fold .standard options ignored .empty).context =
              .nested child.1.key inner .empty ∧
            run.context.get? child.1.key = some (.context inner)) ∧
        ∀ key, key ∉ keys → run.context.get? key = copied.get? key) := by
  intro run copied names keys
  have hresult := result_of_alone hne hconstructs halone
  refine ⟨fun hreject => ?_, fun hlast => ?_, fun hok => ?_⟩
  · rw [Options.replaces_of_reject hreject, or_iff_right Bool.false_ne_true] at hresult
    exact ⟨hresult, error_of_alone hne hconstructs halone⟩
  · exact hresult.mpr (Or.inl (Options.replaces_of_lastWins hlast))
  · have hcontext : run.context = _ := context_of_alone hne hconstructs halone hok
    refine ⟨?_, ?_, fun before child after hsplit hlast => ?_, fun key hkey => ?_⟩
    · rw [hcontext, Context.keys_putAll_empty, List.map_append, Plan.keys_written_constructs]
    · rw [hcontext]
      exact Context.nodup_keys_putAll (c := .empty) List.nodup_nil _
    · have hchild : child ∈ inside.elements := by simp [hsplit]
      refine ⟨_, (fold_around (hconstructs child hchild) (halone child hchild)).2.2, ?_⟩
      rw [← Plan.keys_written_constructs] at hlast
      rw [hcontext, hsplit, List.map_append, List.map_append, ← List.append_assoc]
      exact Context.get?_putAll_of_last hlast _ _ _
    · rw [hcontext, Context.putAll_append, ← Context.copyAttributes_eq_putAll]
      refine Context.get?_putAll_of_notMem ?_ copied
      rwa [Plan.keys_written_constructs]

end Xml.Place

namespace Sample

/-- An element that is there twice, with another one in between, and then an attribute under the
name of an attribute of the schema. -/
def siblings : Content :=
  element "element" 2 [("name", "X"), ("type", "a")] .empty
    (element "element" 3 [("name", "Y")] .empty
      (element "element" 4 [("name", "X"), ("nillable", "true")] .empty
        (element "attribute" 5 [("ref", "version"), ("name", "v")] .empty .empty)))

/-- The schema with these inside, and with attributes of its own. -/
def versioned : StartTag :=
  ⟨⟨some xsdNamespace, "schema"⟩, attributes [("version", "1"), ("id", "s")], ⟨1, 1⟩⟩

/-- The second `X` is the duplicate, or else it takes the place of the first. -/
theorem fold_siblings_of_repeated :
    let place : Place := .child (schema .empty) 0 (.element versioned siblings)
    let rejected := place.fold .standard (options .reject .reject) [] .empty
    let run := place.fold .standard (options .lastWins .reject) [] .empty
    siblings.elements ≠ [] ∧ (∀ child ∈ siblings.elements, child.1.isConstruct = true) ∧
      (∀ policy, ∀ child ∈ siblings.elements,
        (((schema .empty).around 0 versioned child).fold .standard (options policy .reject) []
          .empty).result = .ok ()) ∧
      rejected.result ≠ .ok () ∧ rejected.result = .error (.duplicateKey "X" "element" ⟨4, 1⟩) ∧
      run.result = .ok () ∧ run.context.keys = ["version", "id", "X", "Y"] ∧
      run.context.get? "X" = some (.context (.scalar "nillable" "true" .empty)) ∧
      run.context.get? "id" = some (.scalar "s") := by
  intro place rejected run
  have hne : siblings.elements ≠ [] := by decide
  have hconstructs : ∀ child ∈ siblings.elements, child.1.isConstruct = true := by decide
  have halone : ∀ policy, ∀ child ∈ siblings.elements,
      (((schema .empty).around 0 versioned child).fold .standard (options policy .reject) []
        .empty).result = .ok () := by
    intro policy child hchild
    have hcases : child = siblings.elements[0] ∨ child = siblings.elements[1] ∨
        child = siblings.elements[2] ∨ child = siblings.elements[3] := by
      simpa [siblings, element, Content.elements] using hchild
    rcases hcases with rfl | rfl | rfl | rfl <;> cases policy <;> rfl
  obtain ⟨hrejects, -⟩ := Xml.Place.fold_siblings (options .reject .reject) [] (schema .empty) 0
    versioned siblings hne hconstructs (halone .reject)
  have hfails : rejected.result ≠ .ok () := mt (hrejects rfl).1.mp (by decide)
  obtain ⟨-, hwins, hleft⟩ := Xml.Place.fold_siblings (options .lastWins .reject) []
    (schema .empty) 0 versioned siblings hne hconstructs (halone .lastWins)
  have hok := hwins rfl
  obtain ⟨hkeys, -, hlast, hother⟩ := hleft hok
  obtain ⟨inner, hinner, hfound⟩ := hlast (siblings.elements.take 2) _ (siblings.elements.drop 3)
    rfl (by decide)
  refine ⟨hne, hconstructs, halone, hfails, rfl, hok, hkeys.trans (by decide), ?_, ?_⟩
  · have hnillable : inner = .scalar "nillable" "true" .empty := by
      have hrun : Context.nested "X" (.scalar "nillable" "true" .empty) .empty =
          .nested "X" inner .empty := hinner
      injection hrun with _ hinside
      exact hinside.symm
    exact hnillable ▸ hfound
  · exact (hother "id" (by decide)).trans (by decide)

end Sample

end SchemaFold
