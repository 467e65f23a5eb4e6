import SchemaFold.Proofs.Plan.Writes
/-!
The element children of a content, apart from the texts, comments and instructions between them.

* `Xml.Content.elements`: the element children with what is inside them;
* `Xml.Content.elementsThen`: the element children alone, before another content;
* `Xml.Content.refill`: other elements in the places of the element children;
* `Xml.Content.writes_eq_inOrder`: what a fold writes for a content, it writes for its element
  children one after the other.
-/

namespace SchemaFold

open Xml (Content StartTag)

namespace Xml.Content

/-- The element children in order, each with what is inside it. -/
def elements : Content → List (StartTag × Content)
  | .empty => []
  | .element start inside after => (start, inside) :: after.elements
  | .text _ _ after => after.elements
  | .comment _ _ after => after.elements
  | .instruction _ after => after.elements

/-- The element children of a content, without what stands between them, and then another
content. -/
def elementsThen : Content → Content → Content
  | .empty, next => next
  | .element start inside after, next => .element start inside (after.elementsThen next)
  | .text _ _ after, next => after.elementsThen next
  | .comment _ _ after, next => after.elementsThen next
  | .instruction _ after, next => after.elementsThen next

/-- The content with the elements of a list in the places of its own, as far as there are any. All
other nodes stay where they are. -/
def refill : Content → List (StartTag × Content) → Content
  | .empty, _ => .empty
  | .element start inside after, [] => .element start inside after
  | .element _ _ after, first :: rest => .element first.1 first.2 (after.refill rest)
  | .text value position after, elements => .text value position (after.refill elements)
  | .comment value position after, elements => .comment value position (after.refill elements)
  | .instruction position after, elements => .instruction position (after.refill elements)

theorem elements_elementsThen (content next : Content) :
    (content.elementsThen next).elements = content.elements ++ next.elements := by
  induction content with
  | empty => rfl
  | element start inside after _ ih => exact congrArg (List.cons (start, inside)) ih
  | text value position after ih => exact ih
  | comment value position after ih => exact ih
  | instruction position after ih => exact ih

theorem firstText?_elementsThen (content next : Content) :
    (content.elementsThen next).firstText? = next.firstText? := by
  induction content with
  | empty => rfl
  | element start inside after _ ih => exact ih
  | text value position after ih => exact ih
  | comment value position after ih => exact ih
  | instruction position after ih => exact ih

theorem elements_refill {content : Content} {elements : List (StartTag × Content)}
    (h : elements.length = content.elements.length) :
    (content.refill elements).elements = elements := by
  induction content generalizing elements with
  | empty => exact (List.eq_nil_of_length_eq_zero h).symm
  | element start inside after _ ih =>
    obtain _ | ⟨first, rest⟩ := elements
    · exact absurd h (by simp [Content.elements])
    · have hrest : rest.length = after.elements.length := Nat.succ.inj h
      exact congrArg (List.cons first) (ih hrest)
  | text value position after ih => exact ih h
  | comment value position after ih => exact ih h
  | instruction position after ih => exact ih h

theorem firstText?_refill (content : Content) (elements : List (StartTag × Content)) :
    (content.refill elements).firstText? = content.firstText? := by
  induction content generalizing elements with
  | empty => rfl
  | element start inside after _ ih =>
    obtain _ | ⟨first, rest⟩ := elements
    · rfl
    · exact ih rest
  | text value position after ih => rfl
  | comment value position after ih => exact ih elements
  | instruction position after ih => exact ih elements

end Xml.Content

namespace Plan

/-- Plans one after the other. -/
def inOrder (plans : List Plan) : Plan := plans.foldr (· ++ ·) .done

theorem inOrder_append (plans next : List Plan) :
    inOrder (plans ++ next) = inOrder plans ++ inOrder next := by
  induction plans with
  | nil => rfl
  | cons first rest ih =>
    show first ++ inOrder (rest ++ next) = first ++ inOrder rest ++ inOrder next
    rw [ih, append_assoc]

/-- The writes for one element, with what is inside it. -/
def forElement (choose : ElementKind → Option StandardRule) (options : Options) (declared : Bool)
    (depth : Nat) (element : StartTag × Content) : Plan :=
  ofElement choose options.missingIdentifier declared element.1 element.2 (fun ignored =>
    enter options ignored element.1.attributes depth
      (element.2.writes choose options (isDeclaration (some element.1.name)) (depth + 1)))

end Plan

/-- **A content is written element by element.** -/
theorem Xml.Content.writes_eq_inOrder (choose : ElementKind → Option StandardRule)
    (options : Options) (declared : Bool) (depth : Nat) (content : Content) :
    content.writes choose options declared depth =
      Plan.inOrder (content.elements.map (Plan.forElement choose options declared depth)) := by
  induction content with
  | empty => rfl
  | element start inside after _ ih =>
    exact congrArg (Plan.forElement choose options declared depth (start, inside) ++ ·) ih
  | text value position after ih => exact ih
  | comment value position after ih => exact ih
  | instruction position after ih => exact ih

theorem Xml.Content.writes_elementsThen (choose : ElementKind → Option StandardRule)
    (options : Options) (declared : Bool) (depth : Nat) (content next : Content) :
    (content.elementsThen next).writes choose options declared depth =
      content.writes choose options declared depth ++
        next.writes choose options declared depth := by
  rw [writes_eq_inOrder, writes_eq_inOrder, writes_eq_inOrder, elements_elementsThen,
    List.map_append, Plan.inOrder_append]

end SchemaFold
