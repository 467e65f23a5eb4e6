import SchemaFold.Proofs.Path.Following
import SchemaFold.Proofs.Path.Printing
import SchemaFold.Proofs.Sample
/-!
Names in paths and names in schemas.

* `Path.NodeTest.named`: the test for a name with an optional prefix;
* `Path.Step.parse_eq_ok_name_iff`: a text is read as such a test just if it is such a name;
* `Path.NodeTest.keepsName_named`: the test keeps what the bindings resolve the name to;
* `Path.select_named`: a name leads to the children, and after `@` to the attributes, of that
  expanded name.
-/

namespace SchemaFold

namespace Bindings

/-- A name stands for its local part in the namespace that its prefix is bound to, if there is
one. -/
theorem resolve_eq (bindings : Bindings) {name : String} {parts : Option String × String}
    (hparts : Name.splitQName name = parts) :
    bindings.resolve name = ⟨parts.1.bind bindings.uri?, parts.2⟩ := by
  subst hparts
  rw [resolve]
  rcases Name.splitQName name with ⟨_ | pfx, localName⟩
  · rfl
  · rfl

end Bindings

namespace Path

open Xml (Place)

variable {bindings : Bindings} {text localName : String} {pfx : Option String}

/-! ### Tests for names -/

namespace NodeTest

/-- The test for a name. -/
def named (name : String) : NodeTest :=
  .name (Name.splitQName name).1 (Name.splitQName name).2

theorem written_named (name : String) : (named name).written = name := by
  rcases hparts : Name.splitQName name with ⟨_ | pfx, localName⟩
  · obtain ⟨hname, _⟩ := Name.splitQName_eq_none_iff.mp hparts
    rw [named, hparts, written, hname]
  · have hname := (Name.splitQName_eq_some_iff.mp hparts).1
    rw [named, hparts, written, ← String.toList_inj, hname]
    simp

theorem isProper_name_iff :
    (name pfx localName).isProper = true ↔
      (∀ first ∈ pfx, Name.isNCName first = true) ∧ Name.isNCName localName = true := by
  cases pfx <;> simp [isProper]

theorem isProper_named (name : String) : (named name).isProper = Name.isQName name := by
  rw [Bool.eq_iff_iff, Name.isQName_iff rfl]
  exact isProper_name_iff

/-- The parts of a name are those that its test is made of. -/
theorem splitQName_written (h : (name pfx localName).isProper = true) :
    Name.splitQName (name pfx localName).written = (pfx, localName) := by
  rw [isProper_name_iff] at h
  cases pfx with
  | none => exact Name.splitQName_of_isNCName h.2
  | some pfx => exact Name.splitQName_join (h.1 pfx rfl) localName

/-- **The test for a name keeps what the name stands for.** -/
theorem keepsName_named (bindings : Bindings) (name : String) (expanded : ExpandedName) :
    (named name).keepsName bindings expanded = decide (expanded = bindings.resolve name) := by
  rw [named, keepsName, uriOf, ← bindings.resolve_eq rfl]
  rfl

theorem keepsNode_named (bindings : Bindings) (name : String) (place : Place) :
    (named name).keepsNode bindings place =
      decide (place.name? = some (bindings.resolve name)) := by
  rcases hname : place.name? with _ | expanded
  · simp [keepsNode, named, hname]
  · have hkeeps : (named name).keepsNode bindings place =
        (named name).keepsName bindings expanded := by
      simp [keepsNode, named, hname]
    rw [hkeeps, keepsName_named]
    simp

end NodeTest

/-! ### Reading names -/

/-- **A text is read as the test for a name just if it is a name**, and the test has the parts of
the name. -/
theorem Step.parse_eq_ok_name_iff (htrimmed : Text.IsTrimmed text.toList)
    (haxis : ∀ first rest, text ≠ first ++ "::" ++ rest) :
    Step.parse text = .ok ⟨.child, .name pfx localName⟩ ↔
      Name.isQName text = true ∧ Name.splitQName text = (pfx, localName) := by
  have htrim : Text.trim text = text := by
    rw [Text.trim, Text.trimChars_of_isTrimmed htrimmed, String.ofList_toList]
  rw [Step.parse_eq_ok_iff, htrim, Step.isProper, Step.spellings, List.mem_pair]
  constructor
  · -- the long form has an axis in it
    rintro ⟨hproper, rfl | rfl⟩
    · have hparts := NodeTest.splitQName_written hproper
      exact ⟨(Name.isQName_iff hparts).mpr (NodeTest.isProper_name_iff.mp hproper), hparts⟩
    · exact absurd rfl (haxis "child" _)
  · rintro ⟨hname, hparts⟩
    have htest : NodeTest.named text = .name pfx localName := by rw [NodeTest.named, hparts]
    rw [← htest, NodeTest.isProper_named, NodeTest.written_named]
    exact ⟨hname, Or.inl rfl⟩

namespace Query

/-- A step that is written is a path of its own. -/
theorem parse_step {step : Step} (h : step.isProper = true)
    (haxis : step.axis ≠ .descendantOrSelf) :
    parse step.written = .ok ⟨step.written, false, [step]⟩ := by
  have hproper : IsProper false [step] :=
    { proper := by simpa using h
      attributesLast := by simp
      relative := fun _ => ⟨step, [], rfl, haxis⟩ }
  have hwritten : written false [step] = step.written := by
    rw [written, writtenAfter, ← String.toList_inj]
    simp
  rw [← hwritten]
  exact parse_written hproper

end Query

/-- **Names mean the same to paths and to bindings.** A text without white space around it and
without an axis is read as the test for a name just if it is a name, and then with the parts of the
name. From whatever place, such a name leads to the child elements of the name that the bindings
resolve it to, in document order, and after `@` to the attributes of that name. A prefix that is not
bound stands for no namespace. -/
theorem select_named :
    (∀ text, Text.IsTrimmed text.toList → (∀ first rest, text ≠ first ++ "::" ++ rest) →
      ((∃ pfx localName, Step.parse text = .ok ⟨.child, .name pfx localName⟩) ↔
        Name.isQName text = true) ∧
      ∀ pfx localName, Step.parse text = .ok ⟨.child, .name pfx localName⟩ →
        Name.splitQName text = (pfx, localName)) ∧
    ∀ name, Name.isQName name = true → ∀ (bindings : Bindings) (place : Place),
      select bindings place name = .ok ((place.children.filter fun child =>
        decide (child.name? = some (bindings.resolve name))).map .node) ∧
      select bindings place ("@" ++ name) = .ok ((place.attributes.zipIdx.filter fun a =>
        decide (a.1.name = bindings.resolve name)).map fun a => .attribute place a.2 a.1) ∧
      ∀ pfx localName, Name.splitQName name = (pfx, localName) →
        bindings.resolve name = ⟨pfx.bind bindings.uri?, localName⟩ := by
  refine ⟨fun text htrimmed haxis => ⟨⟨?_, fun hname => ?_⟩, fun pfx localName hparse => ?_⟩,
    fun name hname bindings place => ⟨?_, ?_, fun pfx localName => bindings.resolve_eq⟩⟩
  · rintro ⟨pfx, localName, hparse⟩
    exact ((Step.parse_eq_ok_name_iff htrimmed haxis).mp hparse).1
  · exact ⟨_, _, (Step.parse_eq_ok_name_iff htrimmed haxis).mpr ⟨hname, rfl⟩⟩
  · exact ((Step.parse_eq_ok_name_iff htrimmed haxis).mp hparse).2
  · have hproper : Step.isProper ⟨.child, .named name⟩ = true := by
      rw [Step.isProper, NodeTest.isProper_named, hname]
    have hparse := Query.parse_step hproper (by simp)
    rw [Step.written, NodeTest.written_named] at hparse
    rw [select, hparse]
    show Except.ok (Query.follow bindings [⟨.child, .named name⟩] place) = _
    rw [follow_child, funext (NodeTest.keepsNode_named bindings name)]
  · have hproper : Step.isProper ⟨.attribute, .named name⟩ = true := by
      rw [Step.isProper, NodeTest.isProper_named, hname]
      rfl
    have hparse := Query.parse_step hproper (by simp)
    rw [Step.written, NodeTest.written_named] at hparse
    rw [select, hparse]
    show Except.ok (Step.attributes bindings ⟨.attribute, .named name⟩ place) = _
    rw [Step.attributes]
    simp only [NodeTest.keepsAttribute, NodeTest.keepsName_named]

end Path

namespace Sample

open SchemaFold.Path in
/-- A prefix that has been bound twice, and one that has not been bound. -/
theorem select_named_of_rebound :
    let bindings := (Bindings.standard.bind "p" "urn:one").bind "p" "urn:two"
    let tag (uri : Option String) (line : Nat) (after : Xml.Content) : Xml.Content :=
      .element ⟨⟨uri, "a"⟩, attributes [("b", "1")], ⟨line, 1⟩⟩ .empty after
    let place := schema (tag (some "urn:one") 2 (tag (some "urn:two") 3 (tag none 4 .empty)))
    Text.IsTrimmed "p:a".toList ∧ (∀ first rest, "p:a" ≠ first ++ "::" ++ rest) ∧
      Name.isQName "p:a" = true ∧ Step.parse "p:a" = .ok ⟨.child, .name (some "p") "a"⟩ ∧
      Name.splitQName "p:a" = (some "p", "a") ∧
      (select bindings place "p:a").map (·.map Match.name?) =
        .ok [some ⟨some "urn:two", "a"⟩] ∧
      (select bindings place "q:a").map (·.map Match.name?) = .ok [some ⟨none, "a"⟩] ∧
      ∀ child ∈ place.children,
        (select bindings child "@q:b").map (·.map Match.value?) = .ok [some "1"] := by
  intro bindings tag place
  have htrimmed : Text.IsTrimmed "p:a".toList :=
    ⟨fun _ hc => Option.some.inj hc ▸ by decide, fun _ hc => Option.some.inj hc ▸ by decide⟩
  have haxis : ∀ first rest, "p:a" ≠ first ++ "::" ++ rest := by
    intro first rest heq
    have hcount : "p:a".toList.count ':' = (first ++ "::" ++ rest).toList.count ':' := by
      rw [← heq]
    have hone : "p:a".toList.count ':' = 1 := by decide
    rw [hone, String.toList_append, String.toList_append, List.count_append,
      List.count_append] at hcount
    have htwo : "::".toList.count ':' = 2 := by decide
    omega
  have hname : Name.isQName "p:a" = true := by decide +kernel
  have hparts : Name.splitQName "p:a" = (some "p", "a") := by decide +kernel
  have hunbound : Name.isQName "q:a" = true ∧ Name.isQName "q:b" = true := by decide +kernel
  have hat : "@q:b" = "@" ++ "q:b" := by decide
  obtain ⟨hread, hselect⟩ := select_named
  obtain ⟨hiff, hsame⟩ := hread "p:a" htrimmed haxis
  obtain ⟨pfx, localName, hparse⟩ := hiff.mpr hname
  cases (hsame pfx localName hparse).symm.trans hparts
  refine ⟨htrimmed, haxis, hname, hparse, hparts, ?_, ?_, fun child hchild => ?_⟩
  · rw [(hselect "p:a" hname bindings place).1]
    decide +kernel
  · rw [(hselect "q:a" hunbound.1 bindings place).1]
    decide +kernel
  · rw [hat, (hselect "q:b" hunbound.2 bindings child).2.1]
    revert child
    decide +kernel

end Sample

end SchemaFold
