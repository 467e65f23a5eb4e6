import SchemaFold.Proofs.Path.Following
import SchemaFold.Proofs.Path.Reading
import SchemaFold.Proofs.Sample
/-!
Paths joined by slashes.

* `Path.Query.parse_join`: two paths with a row of slashes between them are a path, with the steps
  of both and a step down for every two slashes;
* `Path.Query.select_join`: where they lead is where the second leads from all places that the first
  leads to, or, with a double slash, from all places there and below.
-/

namespace SchemaFold

namespace Text

variable {cs rest : List Char}

theorem IsTrimmed.append (h : IsTrimmed cs) (hcs : cs ≠ []) (between : List Char)
    (hrest : IsTrimmed rest) (hne : rest ≠ []) : IsTrimmed (cs ++ between ++ rest) where
  head := by
    obtain ⟨c, cs, rfl⟩ := List.exists_cons_of_ne_nil hcs
    exact h.head
  last := by
    rw [List.getLast?_append_of_ne_nil _ hne]
    exact hrest.last

end Text

namespace Path

namespace Query

variable {written other : String} {first second : Query}

/-- Two paths with a row of slashes between them are a path. -/
theorem parse_join (hfirst : parse written = .ok first) (hsecond : parse other = .ok second)
    (hslash : (Text.trim written).toList.getLast? ≠ some '/')
    (hplaces : ∀ step ∈ first.steps, step.axis ≠ .attribute)
    (hrelative : (Text.trim other).toList.head? ≠ some '/') (n : Nat) :
    let joined := written ++ String.ofList (List.replicate (n + 1) '/') ++ other
    parse joined = .ok ⟨Text.trim joined, first.isAbsolute,
      first.steps ++
        (List.replicate ((n + 1) / 2) ⟨.descendantOrSelf, .node⟩ ++ second.steps)⟩ := by
  intro joined
  rw [Text.toList_trim] at hslash hrelative
  obtain ⟨hne, hspells, _, _, habsolute⟩ := parse_eq_ok_iff.mp hfirst
  obtain ⟨hne', hspells', hlast, _, _⟩ := parse_eq_ok_iff.mp hsecond
  obtain ⟨before, gap, hwritten, hbefore, hgap⟩ :=
    Text.exists_eq_around_trimChars written.toList
  obtain ⟨gap', after, hother, hgap', hafter⟩ := Text.exists_eq_around_trimChars other.toList
  have htrimmed := Text.isTrimmed_trimChars written.toList
  have htrimmed' := Text.isTrimmed_trimChars other.toList
  generalize Text.trimChars written.toList = cs at *
  generalize Text.trimChars other.toList = rest at *
  -- white space stays around the slashes, but not at the ends
  have hjoined : Text.trimChars joined.toList =
      cs ++ (gap ++ List.replicate (n + 1) '/' ++ gap') ++ rest := by
    have hchars : joined.toList =
        before ++ (cs ++ (gap ++ List.replicate (n + 1) '/' ++ gap') ++ rest) ++ after := by
      simp only [joined, String.toList_append, String.toList_ofList, hwritten, hother,
        List.append_assoc]
    rw [hchars]
    exact Text.trimChars_around (htrimmed.append hne _ htrimmed' hne') hbefore hafter
  refine parse_eq_ok_iff.mpr ⟨?_, ?_, ?_, rfl, ?_⟩
  · rw [hjoined]
    simp [hne]
  · rw [hjoined]
    exact hspells.join hspells' hne hslash hne' hrelative hgap hgap' n
  · exact attributesLast_append hplaces (attributesLast_append (forall_mem_down _) hlast)
  · obtain ⟨c, cs, rfl⟩ := List.exists_cons_of_ne_nil hne
    rw [hjoined]
    exact habsolute

/-- **Joining paths is following one after the other.** Two paths with a slash between them are a
path with the steps of both. From every place it leads to all that the second leads to from the
places that the first leads to, in order and with repetitions; with a double slash it leads to all
that the second leads to from there and from everywhere below. The first path must lead to nodes and
not end with a slash, and the second not begin with one. -/
theorem select_join (hfirst : parse written = .ok first) (hsecond : parse other = .ok second)
    (hslash : (Text.trim written).toList.getLast? ≠ some '/')
    (hplaces : ∀ step ∈ first.steps, step.axis ≠ .attribute)
    (hrelative : (Text.trim other).toList.head? ≠ some '/') :
    ∃ single double,
      parse (written ++ "/" ++ other) = .ok single ∧
      single.isAbsolute = first.isAbsolute ∧ single.steps = first.steps ++ second.steps ∧
      parse (written ++ "//" ++ other) = .ok double ∧
      double.isAbsolute = first.isAbsolute ∧
      double.steps = first.steps ++ ⟨.descendantOrSelf, .node⟩ :: second.steps ∧
      ∀ bindings place, ∃ nodes : List Xml.Place,
        first.select bindings place = nodes.map .node ∧
        single.select bindings place = nodes.flatMap (second.select bindings) ∧
        double.select bindings place = nodes.flatMap (fun node =>
          node.descendantsOrSelf.flatMap (second.select bindings)) := by
  have hjoin := parse_join hfirst hsecond hslash hplaces hrelative
  refine ⟨_, _, hjoin 0, rfl, rfl, hjoin 1, rfl, rfl, fun bindings place => ?_⟩
  -- the second path is relative, so it goes on from where the first has come to
  have habsolute : second.isAbsolute = false := by
    rw [(parse_eq_ok_iff.mp hsecond).2.2.2.2, ← Text.toList_trim]
    simpa using hrelative
  have hselect : second.select bindings = follow bindings second.steps := by
    funext node
    rw [select, habsolute]
    rfl
  refine ⟨_, follow_eq_map_reach hplaces _, ?_, ?_⟩
  · rw [hselect]
    exact follow_append bindings hplaces second.steps _
  · have hdown : follow bindings (⟨.descendantOrSelf, .node⟩ :: second.steps) = fun node =>
        node.descendantsOrSelf.flatMap (second.select bindings) := by
      funext node
      rw [follow_descendantOrSelf, hselect]
    have hfollow := follow_append bindings hplaces
      (⟨.descendantOrSelf, .node⟩ :: second.steps)
      (if first.isAbsolute then place.origin else place)
    rw [hdown] at hfollow
    exact hfollow

end Query

end Path

namespace Sample

/-- The names of the elements inside the types of a schema, wherever they are. -/
theorem select_join_of_types :
    let types : Path.Query := ⟨"xs:complexType", false, [⟨.child, .name (some "xs") "complexType"⟩]⟩
    let names : Path.Query := ⟨"* / @name", false,
      [⟨.child, .any⟩, ⟨.attribute, .name none "name"⟩]⟩
    let joined : Path.Query := ⟨"xs:complexType //* / @name", false,
      types.steps ++ ⟨.descendantOrSelf, .node⟩ :: names.steps⟩
    let place := schema
      (element "complexType" 2 [("name", "T")]
        (element "sequence" 3 [] (element "element" 4 [("name", "a")] .empty .empty) .empty) .empty)
    Path.Query.parse " xs:complexType " = .ok types ∧ Path.Query.parse "* / @name" = .ok names ∧
      Path.Query.parse " xs:complexType //* / @name" = .ok joined ∧
      (joined.select .standard place).map Path.Match.value? = [some "a"] ∧
      ∃ nodes : List Xml.Place, types.select .standard place = nodes.map .node ∧
        joined.select .standard place = nodes.flatMap (fun node =>
          node.descendantsOrSelf.flatMap (names.select .standard)) := by
  intro types names joined place
  have hfirst : Path.Query.parse " xs:complexType " = .ok types := by decide +kernel
  have hsecond : Path.Query.parse "* / @name" = .ok names := by decide +kernel
  have hjoined : Path.Query.parse " xs:complexType //* / @name" = .ok joined := by decide +kernel
  obtain ⟨_, double, _, _, _, hdouble, _, _, hselect⟩ :=
    Path.Query.select_join hfirst hsecond (by decide) (by decide) (by decide)
  obtain rfl : double = joined := Except.ok.inj (hdouble.symm.trans hjoined)
  obtain ⟨nodes, hnodes, _, hbelow⟩ := hselect .standard place
  exact ⟨hfirst, hsecond, hjoined, by decide +kernel, nodes, hnodes, hbelow⟩

end Sample

end SchemaFold
