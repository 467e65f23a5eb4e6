import SchemaFold.Proofs.Context.Nested
import SchemaFold.Proofs.Context.Written
import SchemaFold.Proofs.Growth
import SchemaFold.Proofs.Unnamed
/-!
Trees without rules are flattened.

Where no element below a node has a rule, all that a fold does is to copy attributes, those of the
node itself first and then those of each element in document order. All go into the context at hand,
whatever the table has for other elements. Only the nesting can end it.

* `Xml.Place.LacksRule`: elements without a rule, and all places that are no elements;
* `Xml.Place.attributesInOrder`: what is copied, in document order;
* `Context.setAll`: writes attributes under their local names;
* `Xml.Content.fold_agree_of_ruleless`, `Xml.Content.result_fold_of_deep`: a content that keeps the
  bound on the nesting, and one that does not;
* `Xml.Place.fold_of_ruleless`: the statement for folds.
-/

namespace SchemaFold

open Xml (Attribute Content Place StartTag)

/-- The table has no rule for the element at a place. -/
def Xml.Place.LacksRule (table : RuleTable) (place : Place) : Prop :=
  ∀ name, place.name? = some name → table.ruleOf? name = none

/-- The attributes of a place that are not ignored, and then those of all elements below it in
document order. -/
def Xml.Place.attributesInOrder (ignored : List String) (place : Place) : List Attribute :=
  place.attributes.filter (fun a => !ignored.contains a.name.localName) ++
    place.descendants.flatMap attributes

/-! ### Attributes in order -/

namespace Context

/-- Writes the values of attributes under their local names, in order. -/
def setAll (c : Context) (attributes : List Attribute) : Context :=
  attributes.foldl (fun c a => c.setScalar a.name.localName a.value) c

theorem setAll_append (c : Context) (attributes later : List Attribute) :
    c.setAll (attributes ++ later) = (c.setAll attributes).setAll later :=
  List.foldl_append

theorem copyAttributes_eq_setAll (ignored : List String) (attributes : List Attribute)
    (c : Context) :
    c.copyAttributes ignored attributes =
      c.setAll (attributes.filter (fun a => !ignored.contains a.name.localName)) := by
  induction attributes generalizing c with
  | nil => rfl
  | cons a rest ih =>
    rw [copyAttributes, ih]
    by_cases hignored : a.name.localName ∈ ignored
    · simp [hignored]
    · simp [hignored, setAll]

theorem copyAttributes_nil (attributes : List Attribute) (c : Context) :
    c.copyAttributes [] attributes = c.setAll attributes := by
  have hall : attributes.filter (fun a => !([] : List String).contains a.name.localName) =
      attributes := List.filter_eq_self.mpr fun _ _ => rfl
  rw [copyAttributes_eq_setAll, hall]

theorem setAll_eq_putAll (c : Context) (attributes : List Attribute) :
    c.setAll attributes =
      c.putAll (attributes.map (fun a => (a.name.localName, .scalar a.value))) := by
  induction attributes generalizing c with
  | nil => rfl
  | cons a rest ih => exact ih _

variable {c : Context} {attributes : List Attribute}

/-- No contexts come from attributes. -/
theorem context?_of_setAll {key : String} {inner : Context}
    (h : (c.setAll attributes).context? key = some inner) : c.context? key = some inner := by
  induction attributes generalizing c with
  | nil => exact h
  | cons a rest ih =>
    have hset : (c.setScalar a.name.localName a.value).context? key = some inner := ih h
    rw [setScalar, context?_put] at hset
    split at hset
    · exact absurd hset (by simp [Value.context?])
    · exact hset

end Context

/-! ### Contents -/

section
variable {table : RuleTable} {options : Options}

/-- An element without a rule is entered, and all that happens to it happens inside. -/
theorem Xml.Content.fold_element_of_ruleless {start : StartTag}
    (h : table.ruleOf? start.name = none) (options : Options) (parent : Place)
    (depth number : Nat) (inside after : Content) (c : Context) :
    ((Content.element start inside after).fold table options parent depth number c).Agree
      ((Fold.enter options [] start.attributes depth
        (inside.fold table options (.child parent number (.element start inside)) (depth + 1) 0)
        c).andThen (after.fold table options parent depth (number + 1))) := by
  rw [fold]
  refine Run.Agree.andThen ?_ fun _ => .refl _
  rw [Fold.dispatch, h]
  exact ⟨rfl, rfl⟩

/-- What a content has to be for the elements in it to have no rule. -/
theorem Xml.Place.forall_lacksRule_cons {place : Place} {inside after : List Place}
    (h : ∀ other ∈ place :: (inside ++ after), other.LacksRule table) :
    place.LacksRule table ∧ (∀ other ∈ inside, other.LacksRule table) ∧
      ∀ other ∈ after, other.LacksRule table := by
  rw [List.forall_mem_cons, List.forall_mem_append] at h
  exact h

/-- **A content without rules that keeps the bound on the nesting** has all attributes in it copied,
in document order. -/
theorem Xml.Content.fold_agree_of_ruleless (content : Content) (parent : Place)
    (depth number : Nat) (c : Context)
    (h : ∀ other ∈ Place.descendantsFrom parent number content, other.LacksRule table)
    (hdepth : depth + content.nesting ≤ options.limits.depth + 1) :
    (content.fold table options parent depth number c).Agree
      (.done (c.setAll
        ((Place.descendantsFrom parent number content).flatMap Place.attributes))) := by
  induction content generalizing parent depth number c with
  | empty => exact .refl _
  | element start inside after ihInside ihAfter =>
    rw [nesting] at hdepth
    obtain ⟨hrule, hinside, hafter⟩ := Place.forall_lacksRule_cons h
    have hhere : depth ≤ options.limits.depth := by omega
    -- the attributes of the element itself come first, then those of the elements inside
    have helement := fold_element_of_ruleless (hrule start.name rfl) options parent depth number
      inside after c
    rw [Fold.enter_of_le hhere, Context.copyAttributes_nil] at helement
    have hself := ihInside (.child parent number (.element start inside)) (depth + 1) 0
      (c.setAll start.attributes) hinside (by omega)
    have hboth := helement.trans (hself.andThen
      fun c => ihAfter parent depth (number + 1) c hafter (by omega))
    rw [Run.done_andThen, ← Context.setAll_append, ← Context.setAll_append] at hboth
    rw [Place.descendantsFrom, List.flatMap_cons, List.flatMap_append]
    exact hboth
  | text value position after ih =>
    exact ih parent depth (number + 1) c (List.forall_mem_cons.mp h).2 hdepth
  | comment value position after ih =>
    exact ih parent depth (number + 1) c (List.forall_mem_cons.mp h).2 hdepth
  | instruction position after ih =>
    exact ih parent depth (number + 1) c (List.forall_mem_cons.mp h).2 hdepth

/-- **A content without rules that does not keep the bound** ends with the first element that is too
deep, and this is so by one level. -/
theorem Xml.Content.result_fold_of_deep (content : Content) (parent : Place)
    (depth number : Nat) (c : Context)
    (h : ∀ other ∈ Place.descendantsFrom parent number content, other.LacksRule table)
    (hdepth : depth ≤ options.limits.depth + 1)
    (hdeep : options.limits.depth + 1 < depth + content.nesting) :
    (content.fold table options parent depth number c).result =
      .error (.limitExceeded (.depth (options.limits.depth + 1) options.limits.depth)) := by
  induction content generalizing parent depth number c with
  | empty => exact absurd hdeep (Nat.not_lt_of_le hdepth)
  | element start inside after ihInside ihAfter =>
    rw [nesting] at hdeep
    obtain ⟨hrule, hinside, hafter⟩ := Place.forall_lacksRule_cons h
    have helement := fold_element_of_ruleless (hrule start.name rfl) options parent depth number
      inside after c
    rw [helement.result]
    by_cases hhere : depth ≤ options.limits.depth
    · rw [Fold.enter_of_le hhere]
      by_cases hinner : options.limits.depth + 1 < depth + 1 + inside.nesting
      · have herror := ihInside (.child parent number (.element start inside)) (depth + 1) 0
          (c.copyAttributes [] start.attributes) hinside (by omega) hinner
        rw [Run.andThen_of_error herror]
        exact herror
      · -- the inside comes to its end, so it is a later element that is too deep
        have hok := (inside.fold_agree_of_ruleless (.child parent number (.element start inside))
          (depth + 1) 0 (c.copyAttributes [] start.attributes) hinside
          (Nat.le_of_not_lt hinner)).result
        rw [Run.andThen_of_ok hok]
        exact ihAfter parent depth (number + 1) _ hafter hdepth (by omega)
    · obtain rfl : depth = options.limits.depth + 1 := by omega
      rw [Fold.enter, Limits.checkDepth, if_pos (Nat.lt_succ_self _)]
      rfl
  | text value position after ih =>
    exact ih parent depth (number + 1) c (List.forall_mem_cons.mp h).2 hdepth hdeep
  | comment value position after ih =>
    exact ih parent depth (number + 1) c (List.forall_mem_cons.mp h).2 hdepth hdeep
  | instruction position after ih =>
    exact ih parent depth (number + 1) c (List.forall_mem_cons.mp h).2 hdepth hdeep

end

/-! ### Folds -/

namespace Xml.Place

variable {table : RuleTable} {options : Options} {place : Place}

/-- A node that keeps the bound is folded from its attributes on. -/
theorem fold_eq_of_le (h : 1 ≤ options.limits.depth) (ignored : List String) (c : Context) :
    place.fold table options ignored c =
      place.inside.fold table options place 2 0 (c.setAll
        (place.attributes.filter (fun a => !ignored.contains a.name.localName))) := by
  rw [fold, Fold.enter_of_le h, Context.copyAttributes_eq_setAll]

theorem fold_agree_setAll (h : ∀ other ∈ place.descendants, other.LacksRule table)
    (hdepth : place.nesting ≤ options.limits.depth) (ignored : List String) (c : Context) :
    (place.fold table options ignored c).Agree
      (.done (c.setAll (place.attributesInOrder ignored))) := by
  rw [nesting] at hdepth
  rw [fold_eq_of_le (by omega), attributesInOrder, Context.setAll_append]
  exact place.inside.fold_agree_of_ruleless place 2 0 _ h (by omega)

theorem result_fold_of_deep (h : ∀ other ∈ place.descendants, other.LacksRule table)
    (hdeep : options.limits.depth < place.nesting) (ignored : List String) (c : Context) :
    (place.fold table options ignored c).result =
      .error (.limitExceeded (.depth (options.limits.depth + 1) options.limits.depth)) := by
  rw [nesting] at hdeep
  by_cases hhere : 1 ≤ options.limits.depth
  · rw [fold_eq_of_le hhere]
    exact place.inside.result_fold_of_deep place 2 0 _ h (by omega) (by omega)
  · -- not even the node itself may be entered
    have hnone : options.limits.depth = 0 := by omega
    rw [fold, Fold.enter, Limits.checkDepth, hnone, if_pos Nat.zero_lt_one]
    rfl

/-- **Trees without rules are flattened.** If no element below a place has a rule, then whatever the
table and the options are, a fold comes to its end just if the tree is nested no deeper than the
bound, and else fails on the first element that is too deep. When it comes to its end, it has
written the attributes of the place that are not ignored, and then those of all elements below it in
document order: the last value for each name counts, new names come in the order in which they are
first found, and there are no new contexts. -/
theorem fold_of_ruleless (table : RuleTable) (options : Options) (ignored : List String)
    (place : Place) (h : ∀ other ∈ place.descendants, other.LacksRule table) (c : Context) :
    let run := place.fold table options ignored c
    let written := place.attributesInOrder ignored
    let names := written.map (·.name.localName)
    (run.result = .ok () ↔ place.nesting ≤ options.limits.depth) ∧
      (∀ e, run.result = .error e →
        e = .limitExceeded (.depth (options.limits.depth + 1) options.limits.depth)) ∧
      (run.result = .ok () →
        run.context = written.foldl (fun c a => c.setScalar a.name.localName a.value) c ∧
        (∀ earlier a later, written = earlier ++ a :: later →
          a.name.localName ∉ later.map (·.name.localName) →
          run.context.get? a.name.localName = some (.scalar a.value)) ∧
        (∀ key ∉ names, run.context.get? key = c.get? key) ∧
        run.context.keys = c.keys ++ (names.removeAll c.keys).eraseDups ∧
        ∀ key inner, run.context.context? key = some inner → c.context? key = some inner) := by
  intro run written names
  by_cases hdepth : place.nesting ≤ options.limits.depth
  · obtain ⟨hcontext, hresult⟩ : run.Agree (.done (c.setAll written)) :=
      fold_agree_setAll h hdepth ignored c
    have hok : run.result = .ok () := hresult
    have hset : run.context = c.setAll written := hcontext
    have hput : run.context = c.putAll
        (written.map (fun a => (a.name.localName, .scalar a.value))) :=
      hset.trans (c.setAll_eq_putAll written)
    have hnames : (written.map (fun a => (a.name.localName, Value.scalar a.value))).map Prod.fst =
        names := List.map_map
    refine ⟨iff_of_true hok hdepth, fun e he => absurd (hok.symm.trans he) (by simp), fun _ =>
      ⟨hset, fun earlier a later hsplit hlast => ?_, fun key hkey => ?_, ?_, fun key inner hinner =>
        ?_⟩⟩
    · rw [hput, hsplit, List.map_append, List.map_cons]
      refine Context.get?_putAll_of_last ?_ c _ _
      rwa [List.map_map]
    · rw [hput]
      exact Context.get?_putAll_of_notMem (hnames ▸ hkey) c
    · rw [hput, Context.keys_putAll, hnames]
    · rw [hset] at hinner
      exact Context.context?_of_setAll hinner
  · have herror := result_fold_of_deep h (Nat.lt_of_not_le hdepth) ignored c
    have hnot : run.result ≠ .ok () := by
      rw [herror]
      simp
    exact ⟨iff_of_false hnot hdepth, fun e he => (Except.error.inj (herror.symm.trans he)).symm,
      fun hok => absurd hok hnot⟩

end Xml.Place

namespace Sample

/-- A schema with elements of no namespace, one in the other, and an element of no known kind. -/
def foreign : Place :=
  .child (schema .empty) 0
    (.element ⟨⟨some xsdNamespace, "schema"⟩, attributes [("id", "s"), ("version", "1")], ⟨1, 1⟩⟩
      (.element ⟨⟨none, "element"⟩, attributes [("x", "2"), ("version", "3")], ⟨2, 1⟩⟩
        (.element ⟨⟨none, "group"⟩, attributes [("old", "4"), ("x", "5")], ⟨3, 1⟩⟩ .empty .empty)
        (element "unknown" 4 [("id", "6"), ("t", "7")] .empty .empty)))

/-- The table has a rule for every kind, but none for these elements. An attribute that is ignored
counts further down, and one with the key of a construct takes its place. Of a bound of two levels
the innermost element is too deep. -/
theorem fold_of_ruleless_of_foreign :
    let rules := options .reject .reject
    let shallow : Options := { rules with limits := ⟨2, 100, 100⟩ }
    let run := foreign.fold looking rules ["id"] occupied
    (∀ other ∈ foreign.descendants, other.LacksRule looking) ∧
      run.result = .ok () ∧
      run.context.keys = ["old", "t", "version", "x", "id"] ∧
      run.context.get? "old" = some (.scalar "4") ∧
      run.context.get? "x" = some (.scalar "5") ∧
      (foreign.fold looking shallow ["id"] occupied).result ≠ .ok () := by
  intro rules shallow run
  have hruleless : ∀ other ∈ foreign.descendants, other.LacksRule looking := by
    have hlacks : ∀ (place : Place) (name : ExpandedName), place.name? = some name →
        looking.ruleOf? name = none → place.LacksRule looking := by
      intro place name hname hrule found hfound
      rw [hname] at hfound
      exact Option.some.inj hfound ▸ hrule
    refine List.forall_mem_cons.mpr ⟨hlacks _ _ rfl rfl, ?_⟩
    refine List.forall_mem_cons.mpr ⟨hlacks _ _ rfl rfl, ?_⟩
    exact List.forall_mem_cons.mpr ⟨hlacks _ _ rfl rfl, List.forall_mem_nil _⟩
  obtain ⟨hiff, -, hwritten⟩ :=
    Xml.Place.fold_of_ruleless looking rules ["id"] foreign hruleless occupied
  have hok : run.result = .ok () := hiff.mpr (by decide)
  obtain ⟨-, hlast, -, hkeys, -⟩ := hwritten hok
  have hdeep := (Xml.Place.fold_of_ruleless looking shallow ["id"] foreign hruleless occupied).1
  refine ⟨hruleless, hok, hkeys.trans rfl, ?_, ?_, fun h => absurd (hdeep.mp h) (by decide)⟩
  · exact hlast (attributes [("version", "1"), ("x", "2"), ("version", "3")]) ⟨⟨none, "old"⟩, "4"⟩
      (attributes [("x", "5"), ("id", "6"), ("t", "7")]) rfl (by decide)
  · exact hlast (attributes [("version", "1"), ("x", "2"), ("version", "3"), ("old", "4")])
      ⟨⟨none, "x"⟩, "5"⟩ (attributes [("id", "6"), ("t", "7")]) rfl (by decide)

end Sample

end SchemaFold
