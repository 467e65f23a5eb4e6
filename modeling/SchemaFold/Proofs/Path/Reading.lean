import Mathlib.Data.List.Forall2
import SchemaFold.Proofs.Path.Scan
import SchemaFold.Proofs.Path.Step
/-!
How the text of a path is read: which steps its characters stand for.

* `Path.Spells`: the characters that are read as given steps;
* `Path.Spells.text`, `Path.Spells.slashes`: a written step and a row of slashes in front of others;
* `Path.Spells.append`, `Path.Spells.join`: texts one after the other, and texts joined by slashes;
* `Path.Query.parse_eq_ok_iff`: the texts that are paths, and which path each of them is.
-/

namespace SchemaFold.Path

variable {taken cs rest space : List Char} {c : Char}

/-! ### White space -/

theorem notMem_of_spaces (h : Text.Spaces space) : '/' ∉ space :=
  fun hmem => absurd (h '/' hmem) (by decide)

/-- White space at the end of a text belongs to its last step, if it ends with one. -/
theorem splitFrom_append_spaces (hspace : Text.Spaces space) (hcs : cs ≠ [])
    (hlast : cs.getLast? ≠ some '/') :
    (splitFrom [] (cs ++ space)).map Text.trim = (splitFrom [] cs).map Text.trim := by
  obtain ⟨pieces, left, hleft, hsplit⟩ := exists_splitFrom_append hlast fun h => absurd h hcs
  have hwhole := hsplit []
  have hmore := splitFrom_append (notMem_of_spaces hspace) left []
  rw [List.append_nil, splitFrom_nil, flush_of_ne_nil hleft] at hwhole
  rw [List.append_nil, splitFrom_nil, flush_of_ne_nil (by simp [hleft])] at hmore
  have htrim := Text.trimChars_append_spaces left.reverse hspace
  rw [hsplit, hwhole, hmore]
  simp [Text.trim, htrim]

/-- White space in front of a text belongs to its first step, if it begins with one. -/
theorem splitFrom_spaces_append (hspace : Text.Spaces space) (hc : c ≠ '/') (cs : List Char) :
    (splitFrom [] (space ++ c :: cs)).map Text.trim = (splitFrom [] (c :: cs)).map Text.trim := by
  obtain ⟨first, rest, hcs, hne, hfirst, hrest, hsplit⟩ := exists_splitFrom_cons hc cs
  have hboth : '/' ∉ space ++ first := by
    rw [List.mem_append, not_or]
    exact ⟨notMem_of_spaces hspace, hfirst⟩
  have hsplit' := splitFrom_text (by simp [hne]) hboth hrest
  have htrim := Text.trimChars_spaces_append hspace first
  rw [hsplit, hcs, ← List.append_assoc, hsplit', List.map_cons, List.map_cons]
  simp [Text.trim, htrim]

/-! ### Steps -/

/-- The characters are read as these steps. -/
def Spells (cs : List Char) (steps : List Step) : Prop :=
  List.Forall₂ (fun piece step => Step.parse piece = .ok step) (splitFrom [] cs) steps

theorem Step.parse_trim (text : String) : Step.parse (Text.trim text) = Step.parse text := by
  rw [Step.parse, Text.trim_trim]
  rfl

namespace Spells

variable {steps more : List Step} {step : Step}

theorem nil : Spells [] [] := by
  rw [Spells, splitFrom_nil]
  exact .nil

/-- White space within the steps makes no difference. -/
theorem of_map_trim (hsame : (splitFrom [] rest).map Text.trim = (splitFrom [] cs).map Text.trim)
    (h : Spells cs steps) : Spells rest steps := by
  have hmap : ∀ pieces : List String,
      List.Forall₂ (fun piece step => Step.parse piece = .ok step) (pieces.map Text.trim) steps ↔
        List.Forall₂ (fun piece step => Step.parse piece = .ok step) pieces steps := by
    intro pieces
    rw [List.forall₂_map_left_iff]
    simp only [Step.parse_trim]
  rw [Spells, ← hmap, hsame, hmap]
  exact h

theorem append_spaces (h : Spells cs steps) (hspace : Text.Spaces space) (hcs : cs ≠ [])
    (hlast : cs.getLast? ≠ some '/') : Spells (cs ++ space) steps :=
  h.of_map_trim (splitFrom_append_spaces hspace hcs hlast)

theorem spaces_append (h : Spells cs steps) (hspace : Text.Spaces space) (hcs : cs ≠ [])
    (hhead : cs.head? ≠ some '/') : Spells (space ++ cs) steps := by
  obtain ⟨c, cs, rfl⟩ := List.exists_cons_of_ne_nil hcs
  exact h.of_map_trim (splitFrom_spaces_append hspace (fun hc => hhead (congrArg some hc)) cs)

/-- A step that is written out, up to a slash or the end. -/
theorem text (h : Spells rest steps) (hstep : Step.parse (String.ofList cs) = .ok step)
    (hcs : cs ≠ []) (hslash : '/' ∉ cs) (hrest : ∀ c ∈ rest.head?, c = '/') :
    Spells (cs ++ rest) (step :: steps) := by
  rw [Spells, splitFrom_text hcs hslash hrest]
  exact .cons hstep h

/-- A row of slashes stands for as many steps down as it has pairs. -/
theorem slashes (h : Spells rest steps) (hrest : rest.head? ≠ some '/') (n : Nat) :
    Spells (List.replicate n '/' ++ rest)
      (List.replicate (n / 2) ⟨.descendantOrSelf, .node⟩ ++ steps) := by
  rw [Spells, splitFrom_slashes hrest]
  generalize n / 2 = m
  induction m with
  | zero => exact h
  | succ m ih =>
    rw [List.replicate_succ, List.replicate_succ]
    exact .cons (by decide) ih

/-- Texts one after the other, of which the first does not end with a slash, and the second begins
with one. -/
theorem append (h : Spells cs steps) (hrest : Spells rest more) (hcs : cs ≠ [])
    (hlast : cs.getLast? ≠ some '/') (hslash : ∀ c ∈ rest.head?, c = '/') :
    Spells (cs ++ rest) (steps ++ more) := by
  rw [Spells, splitFrom_append_of_boundary hcs hlast hslash]
  exact List.rel_append h hrest

/-- Texts that are joined by a row of slashes, with any white space around these. -/
theorem join {before after : List Char} (h : Spells cs steps) (hrest : Spells rest more)
    (hcs : cs ≠ []) (hlast : cs.getLast? ≠ some '/') (hne : rest ≠ [])
    (hhead : rest.head? ≠ some '/') (hbefore : Text.Spaces before) (hafter : Text.Spaces after)
    (n : Nat) :
    Spells (cs ++ (before ++ List.replicate (n + 1) '/' ++ after) ++ rest)
      (steps ++ (List.replicate ((n + 1) / 2) ⟨.descendantOrSelf, .node⟩ ++ more)) := by
  have hend : (cs ++ before).getLast? ≠ some '/' := by
    intro heq
    rw [List.getLast?_append, Option.or_eq_some_iff] at heq
    rcases heq with hspace | ⟨_, hslash⟩
    · exact notMem_of_spaces hbefore (List.mem_of_getLast? hspace)
    · exact hlast hslash
  have hstart : (after ++ rest).head? ≠ some '/' := by
    intro heq
    rw [List.head?_append, Option.or_eq_some_iff] at heq
    rcases heq with hspace | ⟨_, hslash⟩
    · exact notMem_of_spaces hafter (List.mem_of_mem_head? hspace)
    · exact hhead hslash
  have hfront : Spells (cs ++ before) steps := h.append_spaces hbefore hcs hlast
  have hback : Spells (after ++ rest) more := hrest.spaces_append hafter hne hhead
  have hboth := hfront.append (hback.slashes hstart (n + 1)) (by simp [hcs]) hend
    (by simp [List.replicate_succ])
  simpa only [List.append_assoc] using hboth

/-- Every step that is read can be written. -/
theorem isProper (h : Spells cs steps) : ∀ step ∈ steps, step.isProper = true := by
  rw [Spells] at h
  generalize splitFrom [] cs = pieces at h
  induction h with
  | nil => simp
  | cons hstep _ ih =>
    rw [List.forall_mem_cons]
    exact ⟨(Step.parse_eq_ok_iff.mp hstep).1, ih⟩

/-- A text that does not begin with a slash does not begin with a step down. -/
theorem exists_cons (h : Spells (c :: cs) steps) (hc : c ≠ '/') :
    ∃ first rest, steps = first :: rest ∧ first.axis ≠ .descendantOrSelf := by
  obtain ⟨first, rest, _, _, hslash, _, hsplit⟩ := exists_splitFrom_cons hc cs
  rw [Spells, hsplit] at h
  obtain ⟨step, more, hstep, _, rfl⟩ := List.forall₂_cons_left_iff.mp h
  -- a step down is written with slashes, and there are none in what has been split off
  refine ⟨step, more, rfl, fun haxis => hslash ?_⟩
  obtain ⟨axis, test⟩ := step
  obtain rfl : axis = .descendantOrSelf := haxis
  have hmark := (Step.parse_eq_ok_iff.mp hstep).2
  rw [Step.spellings, List.mem_singleton, ← String.toList_inj, Text.toList_trim,
    String.toList_ofList] at hmark
  refine Text.mem_of_mem_trimChars ?_
  rw [hmark]
  decide

end Spells

/-! ### Paths -/

theorem mapM_eq_ok_iff {α β ε : Type} {f : α → Except ε β} {items : List α} {results : List β} :
    items.mapM f = .ok results ↔ List.Forall₂ (fun a b => f a = .ok b) items results := by
  induction items generalizing results with
  | nil =>
    rw [List.mapM_nil, List.forall₂_nil_left_iff]
    exact ⟨fun h => by cases h; rfl, fun h => h ▸ rfl⟩
  | cons a items ih =>
    rw [List.mapM_cons, List.forall₂_cons_left_iff]
    rcases ha : f a with e | b
    · refine ⟨fun h => (by cases h), ?_⟩
      rintro ⟨b, more, hb, _⟩
      cases hb
    · rcases hitems : items.mapM f with e | more
      · refine ⟨fun h => (by cases h), ?_⟩
        rintro ⟨_, more, _, hmore, _⟩
        rw [ih.mpr hmore] at hitems
        cases hitems
      · constructor
        · intro h
          cases h
          exact ⟨b, more, rfl, ih.mp hitems, rfl⟩
        · rintro ⟨_, more', ⟨⟩, hmore, rfl⟩
          rw [ih.mpr hmore] at hitems
          cases hitems
          rfl

theorem attributesLast_iff {steps : List Step} :
    attributesLast steps = true ↔ ∀ step ∈ steps.dropLast, step.axis ≠ .attribute := by
  simp [attributesLast]

theorem attributesLast_append_iff {steps more : List Step} (hmore : more ≠ []) :
    attributesLast (steps ++ more) = true ↔
      (∀ step ∈ steps, step.axis ≠ .attribute) ∧ attributesLast more = true := by
  rw [attributesLast_iff, attributesLast_iff, List.dropLast_append_of_ne_nil hmore,
    List.forall_mem_append]

theorem attributesLast_append {steps more : List Step}
    (h : ∀ step ∈ steps, step.axis ≠ .attribute) (hmore : attributesLast more = true) :
    attributesLast (steps ++ more) = true := by
  by_cases hnil : more = []
  · rw [hnil, List.append_nil, attributesLast_iff]
    exact fun step hstep => h step (List.dropLast_subset _ hstep)
  · exact (attributesLast_append_iff hnil).mpr ⟨h, hmore⟩

/-- Steps down lead to no attributes. -/
theorem forall_mem_down (n : Nat) :
    ∀ step ∈ List.replicate n (⟨.descendantOrSelf, .node⟩ : Step), step.axis ≠ .attribute := by
  intro step hstep
  rw [List.eq_of_mem_replicate hstep]
  exact nofun

namespace Query

variable {written : String} {query : Query}

theorem parse_eq (written : String) :
    parse written =
      if Text.trimChars written.toList = [] then .error .emptyPath
      else ((splitFrom [] (Text.trimChars written.toList)).mapM Step.parse).bind fun steps =>
        if attributesLast steps then
          .ok ⟨Text.trim written, (Text.trimChars written.toList).head? == some '/', steps⟩
        else .error (.attributeNotLast (Text.trim written)) := by
  have hsplit : split (Text.trim written) = splitFrom [] (Text.trimChars written.toList) := by
    rw [split_eq_splitFrom, Text.toList_trim, Text.trimChars_trimChars]
  have hempty : (Text.trim written).isEmpty = true ↔ Text.trimChars written.toList = [] := by
    rw [← Text.toList_trim, String.isEmpty_iff, String.toList_eq_nil_iff]
  rw [parse, hsplit]
  by_cases hnil : Text.trimChars written.toList = []
  · rw [if_pos (hempty.mpr hnil), if_pos hnil]
    rfl
  · rw [if_neg (mt hempty.mp hnil), if_neg hnil, Text.toList_trim]
    rcases (splitFrom [] (Text.trimChars written.toList)).mapM Step.parse with fault | steps
    · rfl
    · show (if (!attributesLast steps) = true then _ else _) =
        if attributesLast steps = true then _ else _
      cases attributesLast steps
      · rfl
      · rfl

/-- **The texts that are paths**: those that are read as steps, of which only the last leads to
attributes. -/
theorem parse_eq_ok_iff :
    parse written = .ok query ↔
      Text.trimChars written.toList ≠ [] ∧ Spells (Text.trimChars written.toList) query.steps ∧
        attributesLast query.steps = true ∧ query.expression = Text.trim written ∧
        query.isAbsolute = ((Text.trimChars written.toList).head? == some '/') := by
  rw [parse_eq, Spells, ← mapM_eq_ok_iff]
  by_cases hnil : Text.trimChars written.toList = []
  · rw [if_pos hnil]
    exact ⟨nofun, fun h => absurd hnil h.1⟩
  · rw [if_neg hnil]
    rcases (splitFrom [] (Text.trimChars written.toList)).mapM Step.parse with fault | steps
    · exact ⟨nofun, fun h => nomatch h.2.1⟩
    · show (if attributesLast steps = true then _ else _) = _ ↔ _
      obtain ⟨expression, isAbsolute, found⟩ := query
      constructor
      · intro h
        split at h
        · rename_i hlast
          rw [Except.ok.injEq, mk.injEq] at h
          obtain ⟨rfl, rfl, rfl⟩ := h
          exact ⟨hnil, rfl, hlast, rfl, rfl⟩
        · cases h
      · rintro ⟨_, hsteps, hlast, rfl, rfl⟩
        cases hsteps
        exact if_pos hlast

end Query

end SchemaFold.Path
