import SchemaFold.Proofs.Path.Reading
/-!
Writing paths.

* `Path.Query.written`: a path with all its steps in their short forms;
* `Path.Query.IsProper`: the paths that can be written;
* `Path.spells_writtenAfter`: steps that are written are read again;
* `Path.Query.parse_written_and_isProper`: reading is the inverse of writing, and no other paths are
  ever read.
-/

namespace SchemaFold.Path

/-! ### The text of a path -/

/-- The slashes before a step with some steps down in front of it: two for each of these, and one if
there are none. -/
def separator (down : Nat) : List Char := List.replicate (max 1 (2 * down)) '/'

/-- Steps as they are written after another step, or where an absolute path begins, with some steps
down before them. Steps down are written by the slashes of what they lead to, or at the end. -/
def writtenAfter : (down : Nat) → List Step → List Char
  | down, [] => List.replicate (2 * down) '/'
  | down, step :: steps =>
    if step.axis = .descendantOrSelf then writtenAfter (down + 1) steps
    else separator down ++ step.written.toList ++ writtenAfter 0 steps

namespace Query

/-- A path as it is written. -/
def written : (isAbsolute : Bool) → List Step → String
  | true, [] => "/"
  | true, step :: steps => String.ofList (writtenAfter 0 (step :: steps))
  | false, [] => ""
  | false, step :: steps => step.written ++ String.ofList (writtenAfter 0 steps)

example : written true [⟨.descendantOrSelf, .node⟩, ⟨.parent, .node⟩, ⟨.attribute, .any⟩] =
    "//../@*" := by rfl

/-- A path that can be written: so can its steps, only the last of them leads to attributes, and if
the path is relative it begins with a step that is no step down. -/
structure IsProper (isAbsolute : Bool) (steps : List Step) : Prop where
  proper : ∀ step ∈ steps, step.isProper = true
  attributesLast : ∀ step ∈ steps.dropLast, step.axis ≠ .attribute
  relative : isAbsolute = false →
    ∃ first rest, steps = first :: rest ∧ first.axis ≠ .descendantOrSelf

end Query

/-! ### Characters -/

variable {step : Step} {steps : List Step} {c : Char}

/-- Neither white space nor slashes are in the short form of a step. -/
theorem Step.of_mem_written (h : step.isProper = true) (haxis : step.axis ≠ .descendantOrSelf)
    (hc : c ∈ step.written.toList) : Text.isSpace c = false ∧ c ≠ '/' := by
  have htest : ∀ {test : NodeTest}, test.isProper = true → c ∈ test.written.toList →
      Text.isSpace c = false ∧ c ≠ '/' := by
    intro test hproper hmem
    refine ⟨NodeTest.isSpace_of_mem_written hproper hmem, ?_⟩
    rintro rfl
    exact NodeTest.notMem_written hproper (by decide) (by decide) hmem
  obtain ⟨_ | _ | _ | _ | _, test⟩ := step
  · exact htest h hc
  · rw [Step.isProper, Bool.and_eq_true] at h
    rw [Step.written, String.toList_append, List.mem_append] at hc
    rcases hc with hat | hc
    · obtain rfl : c = '@' := List.mem_singleton.mp hat
      decide
    · exact htest h.1 hc
  · exact absurd rfl haxis
  · obtain rfl : c = '.' := by simpa [Step.written] using hc
    decide
  · obtain rfl : c = '.' := by simpa [Step.written] using hc
    decide

theorem Step.written_ne_nil (h : step.isProper = true) : step.written.toList ≠ [] := by
  obtain ⟨_ | _ | _ | _ | _, test⟩ := step
  · exact NodeTest.written_ne_empty h
  · simp [Step.written]
  · simp [Step.written, descendantMark]
  · simp [Step.written]
  · simp [Step.written]

theorem Step.parse_written (h : step.isProper = true) (haxis : step.axis ≠ .descendantOrSelf) :
    Step.parse step.written = .ok step := by
  have htrim : Text.trim step.written = step.written := by
    rw [Text.trim, Text.trimChars_of_isTrimmed, String.ofList_toList]
    exact Text.isTrimmed_of_forall fun c hc => (Step.of_mem_written h haxis hc).1
  refine Step.parse_eq_ok_iff.mpr ⟨h, ?_⟩
  rw [htrim]
  exact step.written_mem_spellings

theorem exists_separator_eq (down : Nat) :
    ∃ n, separator down = '/' :: List.replicate n '/' := by
  obtain ⟨n, hn⟩ : ∃ n, max 1 (2 * down) = n + 1 := ⟨max 1 (2 * down) - 1, by omega⟩
  exact ⟨n, by rw [separator, hn, List.replicate_succ]⟩

/-- Steps that come after something begin with a slash, if there are any. -/
theorem head_writtenAfter {down : Nat} (h : 0 < down ∨ steps ≠ []) :
    (writtenAfter down steps).head? = some '/' := by
  induction steps generalizing down with
  | nil =>
    have hdown : 0 < down := h.resolve_right fun hne => hne rfl
    obtain ⟨n, hn⟩ : ∃ n, 2 * down = n + 1 := ⟨2 * down - 1, by omega⟩
    rw [writtenAfter, hn, List.replicate_succ]
    rfl
  | cons step steps ih =>
    rw [writtenAfter]
    split
    · exact ih (Or.inl (Nat.succ_pos down))
    · obtain ⟨n, hn⟩ := exists_separator_eq down
      rw [hn]
      rfl

theorem head_writtenAfter_cons (step : Step) (steps : List Step) :
    (writtenAfter 0 (step :: steps)).head? = some '/' :=
  head_writtenAfter (Or.inr (List.cons_ne_nil step steps))

theorem head_writtenAfter_zero (steps : List Step) :
    ∀ c ∈ (writtenAfter 0 steps).head?, c = '/' := by
  intro c hc
  cases steps with
  | nil => exact absurd hc (by simp [writtenAfter])
  | cons step steps =>
    exact (Option.some.inj ((head_writtenAfter_cons step steps).symm.trans hc)).symm

theorem isSpace_of_mem_writtenAfter (h : ∀ step ∈ steps, step.isProper = true) {down : Nat}
    (hc : c ∈ writtenAfter down steps) : Text.isSpace c = false := by
  have hslashes : ∀ n, c ∈ List.replicate n '/' → Text.isSpace c = false := by
    intro n hmem
    rw [List.eq_of_mem_replicate hmem]
    decide
  induction steps generalizing down with
  | nil => exact hslashes _ hc
  | cons step steps ih =>
    rw [List.forall_mem_cons] at h
    rw [writtenAfter] at hc
    split at hc
    · exact ih h.2 hc
    · rename_i haxis
      rcases List.mem_append.mp hc with hc | hc
      · rcases List.mem_append.mp hc with hc | hc
        · exact hslashes _ hc
        · exact (Step.of_mem_written h.1 haxis hc).1
      · exact ih h.2 hc

/-! ### Reading what is written -/

/-- A step that is written is read again in front of others. -/
theorem Spells.written {rest : List Char} (h : Spells rest steps) (hproper : step.isProper = true)
    (haxis : step.axis ≠ .descendantOrSelf) (hrest : ∀ c ∈ rest.head?, c = '/') :
    Spells (step.written.toList ++ rest) (step :: steps) := by
  refine h.text ?_ (Step.written_ne_nil hproper) (fun hmem => ?_) hrest
  · rw [String.ofList_toList]
    exact Step.parse_written hproper haxis
  · exact (Step.of_mem_written hproper haxis hmem).2 rfl

/-- **Steps that are written are read again.** -/
theorem spells_writtenAfter (h : ∀ step ∈ steps, step.isProper = true) (down : Nat) :
    Spells (writtenAfter down steps)
      (List.replicate down ⟨.descendantOrSelf, .node⟩ ++ steps) := by
  induction steps generalizing down with
  | nil =>
    -- the steps down at the end have their slashes to themselves
    have hslashes := Spells.nil.slashes (by simp) (2 * down)
    rw [List.append_nil, Nat.mul_div_cancel_left down (by decide : 0 < 2)] at hslashes
    exact hslashes
  | cons step steps ih =>
    rw [List.forall_mem_cons] at h
    rw [writtenAfter]
    split
    · -- a step down is added to those that are still to be written
      rename_i haxis
      obtain ⟨axis, test⟩ := step
      obtain rfl : axis = .descendantOrSelf := haxis
      obtain rfl : test = .node := beq_iff_eq.mp h.1
      have hmore := ih h.2 (down + 1)
      rw [List.replicate_succ', List.append_assoc] at hmore
      exact hmore
    · rename_i haxis
      have hrest : Spells (writtenAfter 0 steps) steps := ih h.2 0
      have hstep := hrest.written h.1 haxis (head_writtenAfter_zero steps)
      have hhead : (step.written.toList ++ writtenAfter 0 steps).head? ≠ some '/' := by
        obtain ⟨c, cs, hcs⟩ := List.exists_cons_of_ne_nil (Step.written_ne_nil h.1)
        have hc := (Step.of_mem_written h.1 haxis (hcs ▸ List.mem_cons_self)).2
        rw [hcs]
        exact fun h => hc (Option.some.inj h)
      -- without any step down there is one slash, which is no step
      have hhalf : max 1 (2 * down) / 2 = down := by omega
      have hslashes := hstep.slashes hhead (max 1 (2 * down))
      rw [hhalf, ← List.append_assoc] at hslashes
      exact hslashes

namespace Query

variable {isAbsolute : Bool}

/-- The text of a path is a single slash, or its steps after a slash, or its first step and then the
others. -/
theorem toList_written (h : IsProper isAbsolute steps) :
    (isAbsolute = true ∧ steps = [] ∧ (written isAbsolute steps).toList = ['/']) ∨
    (isAbsolute = true ∧ (∃ first rest, steps = first :: rest) ∧
      (written isAbsolute steps).toList = writtenAfter 0 steps) ∨
    ∃ first rest, isAbsolute = false ∧ steps = first :: rest ∧ first.axis ≠ .descendantOrSelf ∧
      (written isAbsolute steps).toList = first.written.toList ++ writtenAfter 0 rest := by
  cases isAbsolute with
  | true =>
    cases steps with
    | nil => exact Or.inl ⟨rfl, rfl, rfl⟩
    | cons first rest =>
      refine Or.inr (Or.inl ⟨rfl, ⟨first, rest, rfl⟩, ?_⟩)
      rw [written, String.toList_ofList]
  | false =>
    obtain ⟨first, rest, rfl, haxis⟩ := h.relative rfl
    refine Or.inr (Or.inr ⟨first, rest, rfl, rfl, haxis, ?_⟩)
    rw [written, String.toList_append, String.toList_ofList]

theorem spells_written (h : IsProper isAbsolute steps) :
    Spells (written isAbsolute steps).toList steps := by
  rcases toList_written h with ⟨_, rfl, hchars⟩ | ⟨_, _, hchars⟩ |
    ⟨first, rest, _, rfl, haxis, hchars⟩
  · rw [hchars]
    exact Spells.nil.slashes (by simp) 1
  · rw [hchars]
    exact spells_writtenAfter h.proper 0
  · obtain ⟨hfirst, hrest⟩ := List.forall_mem_cons.mp h.proper
    rw [hchars]
    exact (spells_writtenAfter hrest 0).written hfirst haxis (head_writtenAfter_zero rest)

theorem isSpace_of_mem_written (h : IsProper isAbsolute steps)
    (hc : c ∈ (written isAbsolute steps).toList) : Text.isSpace c = false := by
  rcases toList_written h with ⟨_, rfl, hchars⟩ | ⟨_, _, hchars⟩ |
    ⟨first, rest, _, rfl, haxis, hchars⟩
  · rw [hchars, List.mem_singleton] at hc
    rw [hc]
    decide
  · rw [hchars] at hc
    exact isSpace_of_mem_writtenAfter h.proper hc
  · obtain ⟨hfirst, hrest⟩ := List.forall_mem_cons.mp h.proper
    rw [hchars] at hc
    rcases List.mem_append.mp hc with hc | hc
    · exact (Step.of_mem_written hfirst haxis hc).1
    · exact isSpace_of_mem_writtenAfter hrest hc

/-- A path that is written is not empty, and begins with a slash just if it is absolute. -/
theorem exists_written_eq_cons (h : IsProper isAbsolute steps) :
    ∃ c cs, (written isAbsolute steps).toList = c :: cs ∧ (c = '/' ↔ isAbsolute = true) := by
  rcases toList_written h with ⟨rfl, rfl, hchars⟩ | ⟨rfl, ⟨first, rest, rfl⟩, hchars⟩ |
    ⟨first, rest, rfl, rfl, haxis, hchars⟩
  · exact ⟨'/', [], hchars, by decide⟩
  · obtain ⟨cs, hcs⟩ := List.head?_eq_some_iff.mp (head_writtenAfter_cons first rest)
    exact ⟨'/', cs, hchars.trans hcs, by decide⟩
  · have hfirst := h.proper first List.mem_cons_self
    obtain ⟨c, cs, hcs⟩ := List.exists_cons_of_ne_nil (Step.written_ne_nil hfirst)
    have hc := (Step.of_mem_written hfirst haxis (hcs ▸ List.mem_cons_self)).2
    exact ⟨c, _, by rw [hchars, hcs, List.cons_append], by simp [hc]⟩

theorem parse_written (h : IsProper isAbsolute steps) :
    parse (written isAbsolute steps) =
      .ok ⟨written isAbsolute steps, isAbsolute, steps⟩ := by
  have htrim : Text.trimChars (written isAbsolute steps).toList =
      (written isAbsolute steps).toList :=
    Text.trimChars_of_isTrimmed (Text.isTrimmed_of_forall fun _ => isSpace_of_mem_written h)
  have hspells := spells_written h
  obtain ⟨c, cs, hchars, hslash⟩ := exists_written_eq_cons h
  refine parse_eq_ok_iff.mpr ⟨?_, ?_, ?_, ?_, ?_⟩
  · rw [htrim, hchars]
    exact List.cons_ne_nil c cs
  · rw [htrim]
    exact hspells
  · exact attributesLast_iff.mpr h.attributesLast
  · rw [Text.trim, htrim, String.ofList_toList]
  · rw [htrim, hchars]
    cases isAbsolute
    · simpa using hslash
    · simpa using hslash

theorem isProper_of_parse {text : String} {query : Query} (h : parse text = .ok query) :
    IsProper query.isAbsolute query.steps := by
  obtain ⟨hne, hspells, hlast, _, habsolute⟩ := parse_eq_ok_iff.mp h
  refine ⟨hspells.isProper, attributesLast_iff.mp hlast, fun hrelative => ?_⟩
  obtain ⟨c, cs, hchars⟩ := List.exists_cons_of_ne_nil hne
  rw [hchars] at hspells habsolute
  rw [hrelative] at habsolute
  exact hspells.exists_cons (by simpa using habsolute)

/-- **Reading is the inverse of writing.** Every path that can be written is read again from its
text, as absolute or relative as it was and with the same steps. And whatever text a path is read
from, it is one that can be written, and its text is read as the same. -/
theorem parse_written_and_isProper :
    (∀ isAbsolute steps, IsProper isAbsolute steps →
      parse (written isAbsolute steps) = .ok ⟨written isAbsolute steps, isAbsolute, steps⟩) ∧
    ∀ text query, parse text = .ok query →
      IsProper query.isAbsolute query.steps ∧
        ∃ again, parse (written query.isAbsolute query.steps) = .ok again ∧
          again.isAbsolute = query.isAbsolute ∧ again.steps = query.steps :=
  ⟨fun _ _ h => parse_written h, fun _ _ h =>
    ⟨isProper_of_parse h, _, parse_written (isProper_of_parse h), rfl, rfl⟩⟩

end Query

end SchemaFold.Path

namespace SchemaFold.Sample

open SchemaFold.Path in
/-- A path with a step down, read from its short form and from a longer one. -/
theorem parse_written_of_attributes :
    let steps : List Step := [⟨.self, .node⟩, ⟨.descendantOrSelf, .node⟩,
      ⟨.child, .anyIn "xs"⟩, ⟨.attribute, .name none "name"⟩]
    let long : Query := ⟨"self::node() //child::xs:* /attribute::name", false, steps⟩
    Query.IsProper false steps ∧ Query.written false steps = ".//xs:*/@name" ∧
      Query.parse ".//xs:*/@name" = .ok ⟨".//xs:*/@name", false, steps⟩ ∧
      Query.parse " self::node() //child::xs:* /attribute::name" = .ok long ∧
      ∃ again, Query.parse ".//xs:*/@name" = .ok again ∧
        again.isAbsolute = false ∧ again.steps = steps := by
  intro steps long
  have hlong : Query.parse " self::node() //child::xs:* /attribute::name" = .ok long := by
    decide +kernel
  have hproper : Query.IsProper false steps :=
    { proper := by decide +kernel
      attributesLast := by decide
      relative := fun _ => ⟨_, _, rfl, by decide⟩ }
  have hwritten : Query.written false steps = ".//xs:*/@name" := by decide +kernel
  have hread := Query.parse_written_and_isProper.1 false steps hproper
  obtain ⟨_, hagain⟩ := Query.parse_written_and_isProper.2 _ long hlong
  rw [hwritten] at hread
  rw [show Query.written long.isAbsolute long.steps = _ from hwritten] at hagain
  exact ⟨hproper, hwritten, hread, hlong, hagain⟩

end SchemaFold.Sample
