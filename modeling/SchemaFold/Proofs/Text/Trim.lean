import Mathlib.Data.List.DropRight
import SchemaFold.Text.Blank
/-!
Trimmed texts, and how a text lies around its trimmed part.

* `Text.Spaces`, `Text.IsTrimmed`: texts of white space only, and texts without any at their ends;
* `Text.exists_eq_around_trimChars`: a text is its trimmed part with white space around it;
* `Text.trimChars_around`: and no other trimmed text lies in it like this.
-/

namespace SchemaFold.Text

variable {cs before after : List Char}

/-- Nothing but white space. -/
def Spaces (cs : List Char) : Prop := ∀ c ∈ cs, isSpace c = true

/-- No white space at either end. -/
structure IsTrimmed (cs : List Char) : Prop where
  head : ∀ c ∈ cs.head?, isSpace c = false
  last : ∀ c ∈ cs.getLast?, isSpace c = false

/-! ### White space at one end -/

theorem dropSpaces_append (h : Spaces before) (cs : List Char) :
    dropSpaces (before ++ cs) = dropSpaces cs :=
  List.dropWhile_append_of_pos h

theorem dropSpaces_of_head (h : ∀ c ∈ cs.head?, isSpace c = false) : dropSpaces cs = cs := by
  cases cs with
  | nil => rfl
  | cons c rest =>
    have hc := h c rfl
    rw [dropSpaces, List.dropWhile_cons_of_neg (by simp [hc])]

theorem exists_eq_append_dropSpaces (cs : List Char) :
    ∃ before, cs = before ++ dropSpaces cs ∧ Spaces before :=
  ⟨cs.takeWhile isSpace, List.takeWhile_append_dropWhile.symm,
    fun _ hc => List.mem_takeWhile_imp hc⟩

theorem head_dropSpaces (cs : List Char) : ∀ c ∈ (dropSpaces cs).head?, isSpace c = false := by
  intro c hc
  have hnot := List.head?_dropWhile_not isSpace cs
  have hhead : (cs.dropWhile isSpace).head? = some c := hc
  rw [hhead] at hnot
  exact hnot

/-! ### White space at both ends -/

theorem Spaces.reverse (h : Spaces cs) : Spaces cs.reverse :=
  fun c hc => h c (List.mem_reverse.mp hc)

theorem trimChars_of_isTrimmed (h : IsTrimmed cs) : trimChars cs = cs := by
  have hlast : ∀ c ∈ cs.reverse.head?, isSpace c = false := by
    rw [List.head?_reverse]
    exact h.last
  rw [trimChars, dropSpaces_of_head h.head, dropSpaces_of_head hlast, List.reverse_reverse]

/-- A text that is trimmed is what is left of it with white space around it. -/
theorem trimChars_around (h : IsTrimmed cs) (hbefore : Spaces before) (hafter : Spaces after) :
    trimChars (before ++ cs ++ after) = cs := by
  cases cs with
  | nil =>
    -- there is only one piece of white space then
    have hall : Spaces (before ++ [] ++ after) := by
      intro c hc
      rw [List.append_nil] at hc
      exact (List.mem_append.mp hc).elim (hbefore c) (hafter c)
    have hnone := dropSpaces_append hall []
    rw [List.append_nil] at hnone
    rw [trimChars, hnone]
    rfl
  | cons c rest =>
    have hfront : dropSpaces (before ++ (c :: rest) ++ after) = (c :: rest) ++ after := by
      rw [List.append_assoc, dropSpaces_append hbefore]
      exact dropSpaces_of_head fun d hd => h.head d hd
    have hend : dropSpaces ((c :: rest) ++ after).reverse = (c :: rest).reverse := by
      rw [List.reverse_append, dropSpaces_append hafter.reverse]
      refine dropSpaces_of_head ?_
      rw [List.head?_reverse]
      exact h.last
    rw [trimChars, hfront, hend, List.reverse_reverse]

/-- What is left of a text once the white space in front is dropped has it at its end alone. -/
theorem exists_dropSpaces_eq_append (cs : List Char) :
    ∃ after, dropSpaces cs = trimChars cs ++ after ∧ Spaces after := by
  obtain ⟨after, hafter, hspaces⟩ := exists_eq_append_dropSpaces (dropSpaces cs).reverse
  refine ⟨after.reverse, ?_, hspaces.reverse⟩
  rw [trimChars, ← List.reverse_append, ← hafter, List.reverse_reverse]

/-- A text is its trimmed part with white space around it. -/
theorem exists_eq_around_trimChars (cs : List Char) :
    ∃ before after, cs = before ++ trimChars cs ++ after ∧ Spaces before ∧ Spaces after := by
  obtain ⟨before, hbefore, hfront⟩ := exists_eq_append_dropSpaces cs
  obtain ⟨after, hafter, hback⟩ := exists_dropSpaces_eq_append cs
  refine ⟨before, after, ?_, hfront, hback⟩
  rw [List.append_assoc, ← hafter]
  exact hbefore

theorem isTrimmed_trimChars (cs : List Char) : IsTrimmed (trimChars cs) where
  head := by
    obtain ⟨after, hafter, _⟩ := exists_dropSpaces_eq_append cs
    intro c hc
    -- dropping the end does not change the beginning
    refine head_dropSpaces cs c ?_
    rw [hafter, List.head?_append, hc]
    rfl
  last := by
    rw [trimChars, List.getLast?_reverse]
    exact head_dropSpaces _

/-- Trimming once is enough. -/
@[simp] theorem trimChars_trimChars (cs : List Char) : trimChars (trimChars cs) = trimChars cs :=
  trimChars_of_isTrimmed (isTrimmed_trimChars cs)

/-- White space in front makes no difference. -/
theorem trimChars_spaces_append (h : Spaces before) (cs : List Char) :
    trimChars (before ++ cs) = trimChars cs := by
  rw [trimChars, dropSpaces_append h]
  rfl

/-- White space at the end makes no difference. -/
theorem trimChars_append_spaces (cs : List Char) (h : Spaces after) :
    trimChars (cs ++ after) = trimChars cs := by
  obtain ⟨front, back, hcs, hfront, hback⟩ := exists_eq_around_trimChars cs
  have hboth : Spaces (back ++ after) :=
    fun c hc => (List.mem_append.mp hc).elim (hback c) (h c)
  have hsame : cs ++ after = front ++ trimChars cs ++ (back ++ after) := by
    rw [← List.append_assoc, ← hcs]
  rw [hsame, trimChars_around (isTrimmed_trimChars cs) hfront hboth]

theorem mem_of_mem_trimChars {c : Char} (h : c ∈ trimChars cs) : c ∈ cs := by
  obtain ⟨before, after, hcs, _, _⟩ := exists_eq_around_trimChars cs
  rw [hcs]
  exact List.mem_append_left _ (List.mem_append_right _ h)

theorem isTrimmed_of_forall (h : ∀ c ∈ cs, isSpace c = false) : IsTrimmed cs :=
  ⟨fun c hc => h c (List.mem_of_mem_head? hc), fun c hc => h c (List.mem_of_mem_getLast? hc)⟩

@[simp] theorem toList_trim (s : String) : (trim s).toList = trimChars s.toList :=
  String.toList_ofList

@[simp] theorem trim_trim (s : String) : trim (trim s) = trim s := by
  rw [trim, toList_trim, trimChars_trimChars]
  rfl

end SchemaFold.Text
