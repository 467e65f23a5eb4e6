import Mathlib.Data.List.Lex
import Mathlib.Logic.Relation
import SchemaFold.Xml.Place
/-!
Document order.

* `Xml.Place.Precedes`: one place is before another in document order, by the numbers of the
  children on the ways to them;
* `Xml.Place.IsBelow`: one place is below another, by any number of steps to a child;
* `Xml.Place.pairwise_descendantsOrSelf`, `Xml.Place.mem_descendantsOrSelf_iff`: what is listed as
  a place and those below it is in document order, and complete.

Most statements go by induction over the nodes of a content, whatever these are
(`Xml.Content.nodeInduction`).
-/

namespace SchemaFold.Xml

/-! ### One node after another -/

/-- Induction over the nodes of a content, and over those inside each of them. -/
@[elab_as_elim]
theorem Content.nodeInduction {motive : Content → Prop} (empty : motive .empty)
    (cons : ∀ node after, motive node.inside → motive after → motive (Content.cons node after)) :
    ∀ content, motive content
  | .empty => empty
  | .element start inside after =>
    cons (.element start inside) after (nodeInduction empty cons inside)
      (nodeInduction empty cons after)
  | .text value position after =>
    cons (.text value position) after empty (nodeInduction empty cons after)
  | .comment value position after =>
    cons (.comment value position) after empty (nodeInduction empty cons after)
  | .instruction position after =>
    cons (.instruction position) after empty (nodeInduction empty cons after)

namespace Place

variable {place other child parent left right : Place} {way more rest : List Nat}
  {number later : Nat} {content : Content}

theorem childrenFrom_cons (parent : Place) (number : Nat) (node : Node) (after : Content) :
    childrenFrom parent number (Content.cons node after) =
      .child parent number node :: childrenFrom parent (number + 1) after := by
  cases node <;> rfl

theorem descendantsFrom_cons (parent : Place) (number : Nat) (node : Node) (after : Content) :
    descendantsFrom parent number (Content.cons node after) =
      (Place.child parent number node).descendantsOrSelf ++
        descendantsFrom parent (number + 1) after := by
  cases node <;> rfl

/-! ### Before and after -/

/-- One place is before another in document order. -/
def Precedes (place other : Place) : Prop := List.Lex (· < ·) place.index other.index

theorem Precedes.index_ne (h : place.Precedes other) : place.index ≠ other.index :=
  List.Lex.to_ne (List.Lex.imp (fun _ _ => Nat.ne_of_lt) _ _ h)

/-- A place is before all that the way to it goes on to. -/
theorem precedes_of_longer (h : other.index = place.index ++ number :: rest) :
    place.Precedes other := by
  have hlonger := List.Lex.append_left (· < ·) (List.Lex.nil (a := number) (l := rest)) place.index
  rw [List.append_nil, ← h] at hlonger
  exact hlonger

/-- Of two places the one whose way turns to an earlier child is before the other. -/
theorem precedes_of_turn (hplace : place.index = way ++ number :: more)
    (hother : other.index = way ++ later :: rest) (h : number < later) :
    place.Precedes other := by
  rw [Precedes, hplace, hother]
  exact List.Lex.append_left _ (.rel h) way

/-- The order of two places of one depth is that of all places below them. -/
theorem Precedes.of_level (h : left.Precedes right)
    (hlevel : left.index.length = right.index.length) (hplace : place.index = left.index ++ more)
    (hother : other.index = right.index ++ rest) : place.Precedes other := by
  have hextend : ∀ {l m : List Nat}, List.Lex (· < ·) l m → l.length = m.length →
      List.Lex (· < ·) (l ++ more) (m ++ rest) := by
    intro l m hlex
    induction hlex with
    | nil => exact fun hlength => absurd hlength (by simp)
    | rel h => exact fun _ => .rel h
    | cons _ ih => exact fun hlength => .cons (ih (Nat.succ.inj hlength))
  rw [Precedes, hplace, hother]
  exact hextend h hlevel

/-! ### Children -/

theorem index_of_mem_childrenFrom (h : child ∈ childrenFrom parent number content) :
    ∃ later, number ≤ later ∧ child.index = parent.index ++ [later] := by
  induction content using Content.nodeInduction generalizing number with
  | empty => exact absurd h List.not_mem_nil
  | cons node after _ ih =>
    rw [childrenFrom_cons, List.mem_cons] at h
    rcases h with rfl | h
    · exact ⟨number, Nat.le_refl number, rfl⟩
    · obtain ⟨later, hlater, hindex⟩ := ih h
      exact ⟨later, Nat.le_of_succ_le hlater, hindex⟩

theorem index_of_mem_children (h : child ∈ place.children) :
    ∃ number, child.index = place.index ++ [number] := by
  obtain ⟨number, _, hindex⟩ := index_of_mem_childrenFrom h
  exact ⟨number, hindex⟩

/-- Children are in document order. -/
theorem pairwise_childrenFrom (parent : Place) (number : Nat) (content : Content) :
    (childrenFrom parent number content).Pairwise Precedes := by
  induction content using Content.nodeInduction generalizing number with
  | empty => exact .nil
  | cons node after _ ih =>
    rw [childrenFrom_cons, List.pairwise_cons]
    refine ⟨fun other hother => ?_, ih (number + 1)⟩
    obtain ⟨later, hlater, hindex⟩ := index_of_mem_childrenFrom hother
    exact precedes_of_turn rfl hindex hlater

/-! ### Descendants -/

theorem index_of_mem_descendantsFrom (h : place ∈ descendantsFrom parent number content) :
    ∃ later rest, number ≤ later ∧ place.index = parent.index ++ later :: rest := by
  induction content using Content.nodeInduction generalizing parent number with
  | empty => exact absurd h List.not_mem_nil
  | cons node after ihInside ihAfter =>
    rw [descendantsFrom_cons, List.mem_append, descendantsOrSelf, List.mem_cons] at h
    rcases h with (rfl | h) | h
    · exact ⟨number, [], Nat.le_refl number, rfl⟩
    · obtain ⟨later, rest, _, hindex⟩ := ihInside h
      refine ⟨number, later :: rest, Nat.le_refl number, ?_⟩
      rw [hindex, index, List.append_assoc]
      rfl
    · obtain ⟨later, rest, hlater, hindex⟩ := ihAfter h
      exact ⟨later, rest, Nat.le_of_succ_le hlater, hindex⟩

theorem index_of_mem_descendantsOrSelf (h : other ∈ place.descendantsOrSelf) :
    ∃ rest, other.index = place.index ++ rest := by
  rcases List.mem_cons.mp h with rfl | h
  · exact ⟨[], (List.append_nil _).symm⟩
  · obtain ⟨later, rest, _, hindex⟩ := index_of_mem_descendantsFrom h
    exact ⟨later :: rest, hindex⟩

theorem pairwise_descendantsFrom (parent : Place) (number : Nat) (content : Content) :
    (descendantsFrom parent number content).Pairwise Precedes := by
  induction content using Content.nodeInduction generalizing parent number with
  | empty => exact .nil
  | cons node after ihInside ihAfter =>
    rw [descendantsFrom_cons, List.pairwise_append, descendantsOrSelf, List.pairwise_cons]
    refine ⟨⟨fun other hother => ?_, ihInside _ 0⟩, ihAfter parent (number + 1),
      fun other hother next hnext => ?_⟩
    · obtain ⟨later, rest, _, hindex⟩ := index_of_mem_descendantsFrom hother
      exact precedes_of_longer hindex
    · -- the first way turns to the first node, the second one to a later node
      obtain ⟨more, hother⟩ := index_of_mem_descendantsOrSelf hother
      obtain ⟨later, rest, hlater, hnext⟩ := index_of_mem_descendantsFrom hnext
      rw [index, List.append_assoc] at hother
      exact precedes_of_turn hother hnext hlater

/-- **A place and those below it are listed in document order.** -/
theorem pairwise_descendantsOrSelf (place : Place) :
    place.descendantsOrSelf.Pairwise Precedes := by
  rw [descendantsOrSelf, List.pairwise_cons]
  refine ⟨fun other hother => ?_, pairwise_descendantsFrom place 0 place.inside⟩
  obtain ⟨later, rest, _, hindex⟩ := index_of_mem_descendantsFrom hother
  exact precedes_of_longer hindex

/-- One place is below another: a child of it, or below a child. -/
def IsBelow (place other : Place) : Prop :=
  Relation.TransGen (fun parent child => child ∈ parent.children) other place

theorem isBelow_iff :
    place.IsBelow other ↔ ∃ child ∈ other.children, place = child ∨ place.IsBelow child := by
  rw [IsBelow, Relation.TransGen.head'_iff]
  simp only [Relation.reflTransGen_iff_eq_or_transGen, IsBelow]

theorem isBelow_iff_exists_parent :
    place.IsBelow other ↔ ∃ parent, (parent = other ∨ parent.IsBelow other) ∧
      place ∈ parent.children := by
  rw [IsBelow, Relation.TransGen.tail'_iff]
  simp only [Relation.reflTransGen_iff_eq_or_transGen, IsBelow]

theorem mem_descendantsFrom_iff :
    place ∈ descendantsFrom parent number content ↔
      ∃ child ∈ childrenFrom parent number content, place = child ∨ place.IsBelow child := by
  induction content using Content.nodeInduction generalizing parent number with
  | empty => simp [descendantsFrom, childrenFrom]
  | cons node after ihInside ihAfter =>
    rw [descendantsFrom_cons, childrenFrom_cons, List.mem_append, descendantsOrSelf,
      List.mem_cons, ihAfter, List.exists_mem_cons_iff, isBelow_iff]
    exact or_congr_left (or_congr_right ihInside)

/-- **Nothing that is below a place is missing.** -/
theorem mem_descendantsOrSelf_iff :
    place ∈ other.descendantsOrSelf ↔ place = other ∨ place.IsBelow other := by
  rw [descendantsOrSelf, List.mem_cons, mem_descendantsFrom_iff, isBelow_iff]
  rfl

end Place

end SchemaFold.Xml
