import SchemaFold.Proofs.Path.Reading
/-!
The grammar of the texts that are paths.

* `Path.IsStep`, `Path.IsSteps`, `Path.IsPath`: steps between rows of slashes, for a `Path.Spacing`
  that says how long these rows may be;
* `Path.Spacing.strict`: one slash or two between steps, and none after the last of them;
* `Path.Spacing.free`: rows of any length, also after the last step, and also on their own;
* `Path.Tight`: no slash comes last, and there are no three in a row;
* `Path.Query.exists_parse_iff`: the texts that are paths are those of the free grammar;
* `Path.isPath_strict_iff`: those of the strict grammar are the tight ones among them, and `/`.
-/

namespace SchemaFold.Path

variable {cs rest : List Char} {c : Char} {n : Nat} {step : Step} {steps more : List Step}

/-! ### The grammar -/

/-- The characters of one step. A step is not empty, and has no slashes in it. -/
structure IsStep (cs : List Char) (step : Step) : Prop where
  ne_nil : cs ≠ []
  slash : '/' ∉ cs
  parse : Step.parse (String.ofList cs) = .ok step

/-- How many slashes there may be in a row. -/
structure Spacing where
  /-- In front of the first step. -/
  before : Nat → Prop
  /-- Between two steps. -/
  between : Nat → Prop
  /-- After the last step. -/
  after : Step → Nat → Prop
  /-- Without any step. -/
  alone : Nat → Prop

/-- The rows of slashes of a location path: none that is longer than two, none at the end. -/
def Spacing.strict : Spacing where
  before n := n ≤ 2
  between n := n = 1 ∨ n = 2
  after _ n := n = 0
  alone n := n = 1

/-- The rows of slashes that are read: any, but a step to attributes is the last one, and every two
slashes after it would be another. -/
def Spacing.free : Spacing where
  before _ := True
  between n := 0 < n
  after step n := step.axis = .attribute → n < 2
  alone n := 0 < n

variable {spacing : Spacing}

/-- Steps with slashes between them, of which only the last leads to attributes. -/
inductive IsSteps (spacing : Spacing) : List Char → Prop
  | last {cs : List Char} {step : Step} {n : Nat} (h : IsStep cs step)
      (hafter : spacing.after step n) : IsSteps spacing (cs ++ List.replicate n '/')
  | cons {cs rest : List Char} {step : Step} {n : Nat} (h : IsStep cs step)
      (haxis : step.axis ≠ .attribute) (hbetween : spacing.between n)
      (hrest : IsSteps spacing rest) : IsSteps spacing (cs ++ (List.replicate n '/' ++ rest))

/-- Steps with any slashes in front of them, or slashes on their own. -/
inductive IsPath (spacing : Spacing) : List Char → Prop
  | slashes {n : Nat} (halone : spacing.alone n) : IsPath spacing (List.replicate n '/')
  | steps {cs : List Char} {n : Nat} (hbefore : spacing.before n) (h : IsSteps spacing cs) :
      IsPath spacing (List.replicate n '/' ++ cs)

theorem IsStep.head (h : IsStep cs step) (rest : List Char) : (cs ++ rest).head? ≠ some '/' := by
  obtain ⟨c, cs, rfl⟩ := List.exists_cons_of_ne_nil h.ne_nil
  intro heq
  exact h.slash (by rw [Option.some.inj heq]; exact List.mem_cons_self)

theorem IsSteps.head (h : IsSteps spacing cs) : cs.head? ≠ some '/' := by
  cases h with
  | last h => exact h.head _
  | cons h => exact h.head _

theorem IsSteps.ne_nil (h : IsSteps spacing cs) : cs ≠ [] := by
  cases h with
  | last h => simp [h.ne_nil]
  | cons h => simp [h.ne_nil]

/-! ### The texts that are read -/

/-- A row of slashes on its own is read as steps down. -/
theorem spells_slashes (n : Nat) :
    Spells (List.replicate n '/') (List.replicate (n / 2) ⟨.descendantOrSelf, .node⟩) := by
  have hslashes := Spells.nil.slashes (by simp) n
  rw [List.append_nil, List.append_nil] at hslashes
  exact hslashes

theorem attributesLast_down (n : Nat) :
    attributesLast (List.replicate n ⟨.descendantOrSelf, .node⟩) = true :=
  attributesLast_iff.mpr fun step hstep => forall_mem_down n step (List.dropLast_subset _ hstep)

/-- A step may have the slashes after it that make no step down, or any if it does not lead to
attributes. -/
theorem attributesLast_cons_down_iff :
    attributesLast (step :: List.replicate (n / 2) ⟨.descendantOrSelf, .node⟩) = true ↔
      Spacing.free.after step n := by
  by_cases hn : n < 2
  · have hhalf : n / 2 = 0 := by omega
    rw [hhalf, attributesLast_iff]
    exact ⟨fun _ _ => hn, fun _ => by simp⟩
  · have hhalf : List.replicate (n / 2) (⟨.descendantOrSelf, .node⟩ : Step) ≠ [] := by
      rw [Ne, List.replicate_eq_nil_iff]
      omega
    rw [← List.singleton_append, attributesLast_append_iff hhalf, List.forall_mem_singleton]
    constructor
    · rintro ⟨haxis, _⟩ hattribute
      exact absurd hattribute haxis
    · intro hafter
      exact ⟨fun hattribute => hn (hafter hattribute), attributesLast_down _⟩

theorem Spells.ne_nil (h : Spells cs steps) (hcs : cs ≠ []) (hhead : cs.head? ≠ some '/') :
    steps ≠ [] := by
  obtain ⟨c, cs, rfl⟩ := List.exists_cons_of_ne_nil hcs
  obtain ⟨first, more, rfl, _⟩ := h.exists_cons fun hc => hhead (congrArg some hc)
  exact List.cons_ne_nil _ _

/-- **Steps of the free grammar are read**, whatever slashes are between them. -/
theorem IsSteps.exists_spells (h : IsSteps .free cs) :
    ∃ steps, Spells cs steps ∧ attributesLast steps = true := by
  induction h with
  | @last cs step n h hafter =>
    refine ⟨_, (spells_slashes n).text h.parse h.ne_nil h.slash ?_,
      attributesLast_cons_down_iff.mpr hafter⟩
    intro c hc
    exact List.eq_of_mem_replicate (List.mem_of_mem_head? hc)
  | @cons cs rest step n h haxis hbetween hrest ih =>
    obtain ⟨more, hspells, hlast⟩ := ih
    refine ⟨_, (hspells.slashes hrest.head n).text h.parse h.ne_nil h.slash ?_, ?_⟩
    · obtain ⟨m, rfl⟩ := Nat.exists_eq_add_of_lt hbetween
      intro c hc
      rw [Nat.zero_add, List.replicate_succ] at hc
      exact (Option.some.inj hc).symm
    · have hmore := hspells.ne_nil hrest.ne_nil hrest.head
      rw [← List.cons_append, attributesLast_append_iff hmore, List.forall_mem_cons]
      exact ⟨⟨haxis, forall_mem_down _⟩, hlast⟩

/-- A row of slashes in front of a text is read as steps down. -/
theorem Spells.of_slashes (h : Spells (List.replicate n '/' ++ rest) steps)
    (hhead : rest.head? ≠ some '/') :
    ∃ more, Spells rest more ∧
      steps = List.replicate (n / 2) ⟨.descendantOrSelf, .node⟩ ++ more := by
  rw [Spells, splitFrom_slashes hhead] at h
  generalize n / 2 = m at h ⊢
  induction m generalizing steps with
  | zero => exact ⟨steps, h, rfl⟩
  | succ m ih =>
    rw [List.replicate_succ, List.cons_append] at h
    obtain ⟨step, tail, hstep, htail, rfl⟩ := List.forall₂_cons_left_iff.mp h
    obtain ⟨more, hmore, rfl⟩ := ih htail
    have hdown : Step.parse descendantMark = .ok ⟨.descendantOrSelf, .node⟩ := by decide
    obtain rfl := Except.ok.inj (hstep.symm.trans hdown)
    exact ⟨more, hmore, rfl⟩

/-- **What is read as steps is of the free grammar.** By induction on the length: after the first
step and the slashes behind it there are no characters left, or again some steps. -/
theorem IsSteps.of_spells (h : Spells cs steps) (hlast : attributesLast steps = true)
    (hcs : cs ≠ []) (hhead : cs.head? ≠ some '/') : IsSteps .free cs := by
  induction hlength : cs.length using Nat.strong_induction_on generalizing cs steps with
  | _ length ih =>
    obtain ⟨c, cs, rfl⟩ := List.exists_cons_of_ne_nil hcs
    obtain ⟨first, behind, heq, hne, hslash, hboundary, hsplit⟩ :=
      exists_splitFrom_cons (fun hc => hhead (congrArg some hc)) cs
    rw [Spells, hsplit] at h
    obtain ⟨step, tail, hparse, htail, rfl⟩ := List.forall₂_cons_left_iff.mp h
    have hstep : IsStep first step := ⟨hne, hslash, hparse⟩
    obtain ⟨n, rest, rfl, hrest⟩ := exists_slashes behind
    obtain ⟨more, hmore, rfl⟩ := Spells.of_slashes htail hrest
    rw [heq]
    by_cases hnil : rest = []
    · subst hnil
      rw [Spells, splitFrom_nil] at hmore
      obtain rfl := List.forall₂_nil_left_iff.mp hmore
      rw [List.append_nil] at hlast ⊢
      exact .last hstep (attributesLast_cons_down_iff.mp hlast)
    · rw [← List.cons_append, attributesLast_append_iff (hmore.ne_nil hnil hrest),
        List.forall_mem_cons] at hlast
      obtain ⟨⟨haxis, _⟩, hlast⟩ := hlast
      -- the first step goes on up to a slash
      have hbetween : 0 < n := by
        rw [Nat.pos_iff_ne_zero]
        rintro rfl
        obtain ⟨d, rest, rfl⟩ := List.exists_cons_of_ne_nil hnil
        exact hrest (congrArg some (hboundary d rfl))
      have hshorter : rest.length < length := by
        rw [← hlength, heq, List.length_append, List.length_append]
        have hfirst := List.length_pos_of_ne_nil hne
        omega
      exact .cons hstep haxis hbetween (ih _ hshorter hmore hlast hnil hrest rfl)

/-- **What is read is of the free grammar**, and the other way round. -/
theorem isPath_free_iff :
    IsPath .free cs ↔ cs ≠ [] ∧ ∃ steps, Spells cs steps ∧ attributesLast steps = true := by
  constructor
  · intro h
    cases h with
    | @slashes n halone =>
      refine ⟨?_, _, spells_slashes n, attributesLast_down _⟩
      rw [Ne, List.replicate_eq_nil_iff]
      exact Nat.ne_of_gt halone
    | @steps cs n hbefore h =>
      obtain ⟨more, hspells, hlast⟩ := h.exists_spells
      have hmore := hspells.ne_nil h.ne_nil h.head
      refine ⟨by simp [h.ne_nil], _, hspells.slashes h.head n, ?_⟩
      rw [attributesLast_append_iff hmore]
      exact ⟨forall_mem_down _, hlast⟩
  · rintro ⟨hne, steps, hspells, hlast⟩
    obtain ⟨n, rest, rfl, hhead⟩ := exists_slashes cs
    obtain ⟨more, hmore, rfl⟩ := hspells.of_slashes hhead
    by_cases hnil : rest = []
    · subst hnil
      rw [List.append_nil] at hne ⊢
      refine .slashes (Nat.pos_of_ne_zero ?_)
      rintro rfl
      exact hne rfl
    · rw [attributesLast_append_iff (hmore.ne_nil hnil hhead)] at hlast
      exact .steps trivial (.of_spells hmore hlast.2 hnil hhead)

/-- The texts that are paths are those of the free grammar, after trimming. -/
theorem Query.exists_parse_iff {text : String} :
    (∃ query, Query.parse text = .ok query) ↔ IsPath .free (Text.trimChars text.toList) := by
  rw [isPath_free_iff]
  constructor
  · rintro ⟨query, hquery⟩
    obtain ⟨hne, hspells, hlast, _⟩ := parse_eq_ok_iff.mp hquery
    exact ⟨hne, query.steps, hspells, hlast⟩
  · rintro ⟨hne, steps, hspells, hlast⟩
    exact ⟨⟨_, _, steps⟩, parse_eq_ok_iff.mpr ⟨hne, hspells, hlast, rfl, rfl⟩⟩

/-! ### Tight texts -/

/-- No slash comes last, and there are no three of them in a row. -/
structure Tight (cs : List Char) : Prop where
  last : cs.getLast? ≠ some '/'
  triple : ¬ ['/', '/', '/'] <:+: cs

theorem triple_infix_append_iff (h : '/' ∉ cs) :
    ['/', '/', '/'] <:+: cs ++ rest ↔ ['/', '/', '/'] <:+: rest := by
  induction cs with
  | nil => rfl
  | cons c cs ih =>
    rw [List.mem_cons, not_or] at h
    rw [List.cons_append, List.infix_cons_iff, ih h.2, List.cons_prefix_cons]
    exact or_iff_right fun hslash => h.1 hslash.1

theorem triple_infix_slashes_iff (h : rest.head? ≠ some '/') (n : Nat) :
    ['/', '/', '/'] <:+: List.replicate n '/' ++ rest ↔ 2 < n ∨ ['/', '/', '/'] <:+: rest := by
  -- what comes after the row does not lengthen it
  have hstop : ∀ cs, ¬ '/' :: cs <+: rest := by
    rintro cs ⟨more, rfl⟩
    exact h rfl
  match n with
  | 0 => simp
  | 1 =>
    rw [List.replicate_one, List.singleton_append, List.infix_cons_iff, List.cons_prefix_cons]
    simp [hstop]
  | 2 =>
    rw [List.replicate_succ, List.replicate_one, List.cons_append, List.singleton_append,
      List.infix_cons_iff, List.infix_cons_iff, List.cons_prefix_cons, List.cons_prefix_cons,
      List.cons_prefix_cons]
    simp [hstop]
  | n + 3 =>
    have hinfix : ['/', '/', '/'] <:+: List.replicate (n + 3) '/' ++ rest :=
      ⟨[], List.replicate n '/' ++ rest, rfl⟩
    exact ⟨fun _ => Or.inl (by omega), fun _ => hinfix⟩

theorem tight_append_iff (h : '/' ∉ cs) (hne : rest ≠ []) : Tight (cs ++ rest) ↔ Tight rest := by
  have hlast : (cs ++ rest).getLast? = rest.getLast? := List.getLast?_append_of_ne_nil _ hne
  have htriple : ¬ ['/', '/', '/'] <:+: cs ++ rest ↔ ¬ ['/', '/', '/'] <:+: rest :=
    not_congr (triple_infix_append_iff h)
  constructor
  · rintro ⟨hend, hno⟩
    exact ⟨hlast ▸ hend, htriple.mp hno⟩
  · rintro ⟨hend, hno⟩
    exact ⟨hlast ▸ hend, htriple.mpr hno⟩

/-- Up to two slashes in front of a step are tight. -/
theorem tight_slashes_append_iff (hne : rest ≠ []) (hhead : rest.head? ≠ some '/') :
    Tight (List.replicate n '/' ++ rest) ↔ n ≤ 2 ∧ Tight rest := by
  have hlast : (List.replicate n '/' ++ rest).getLast? = rest.getLast? :=
    List.getLast?_append_of_ne_nil _ hne
  have htriple := not_congr (triple_infix_slashes_iff hhead n)
  rw [not_or] at htriple
  constructor
  · rintro ⟨hend, hno⟩
    obtain ⟨hn, hno⟩ := htriple.mp hno
    exact ⟨by omega, hlast ▸ hend, hno⟩
  · rintro ⟨hn, hend, hno⟩
    exact ⟨hlast ▸ hend, htriple.mpr ⟨by omega, hno⟩⟩

/-- Slashes at the end are never tight. -/
theorem not_tight_slashes (cs : List Char) (n : Nat) :
    ¬ Tight (cs ++ List.replicate (n + 1) '/') := by
  intro htight
  refine htight.last ?_
  rw [List.replicate_succ', ← List.append_assoc, List.getLast?_concat]

theorem IsStep.tight (h : IsStep cs step) : Tight cs where
  last := fun hlast => h.slash (List.mem_of_getLast? hlast)
  triple := fun htriple => h.slash (htriple.subset List.mem_cons_self)

/-- The steps of the strict grammar are the tight ones of the free grammar. -/
theorem isSteps_strict_iff : IsSteps .strict cs ↔ IsSteps .free cs ∧ Tight cs := by
  constructor
  · intro h
    induction h with
    | @last cs step n h hafter =>
      obtain rfl : n = 0 := hafter
      refine ⟨.last h fun _ => by decide, ?_⟩
      rw [List.replicate_zero, List.append_nil]
      exact h.tight
    | @cons cs rest step n h haxis hbetween hrest ih =>
      have hn : n = 1 ∨ n = 2 := hbetween
      obtain ⟨hfree, htight⟩ := ih
      refine ⟨.cons h haxis (show 0 < n by omega) hfree, ?_⟩
      rw [tight_append_iff h.slash (by simp [hrest.ne_nil]),
        tight_slashes_append_iff hrest.ne_nil hrest.head]
      exact ⟨by omega, htight⟩
  · rintro ⟨h, htight⟩
    induction h with
    | @last cs step n h _ =>
      cases n with
      | zero => exact .last h rfl
      | succ n => exact absurd htight (not_tight_slashes cs n)
    | @cons cs rest step n h haxis hbetween hrest ih =>
      have hpos : 0 < n := hbetween
      rw [tight_append_iff h.slash (by simp [hrest.ne_nil]),
        tight_slashes_append_iff hrest.ne_nil hrest.head] at htight
      obtain ⟨hn, htight⟩ := htight
      exact .cons h haxis (show n = 1 ∨ n = 2 by omega) (ih htight)

/-- The paths of the strict grammar are the tight ones of the free grammar, and the slash. -/
theorem isPath_strict_iff :
    IsPath .strict cs ↔ IsPath .free cs ∧ (cs = ['/'] ∨ Tight cs) := by
  constructor
  · intro h
    cases h with
    | @slashes n halone =>
      obtain rfl : n = 1 := halone
      exact ⟨.slashes Nat.one_pos, Or.inl rfl⟩
    | @steps cs n hbefore h =>
      obtain ⟨hfree, htight⟩ := isSteps_strict_iff.mp h
      refine ⟨.steps trivial hfree, Or.inr ?_⟩
      exact (tight_slashes_append_iff h.ne_nil h.head).mpr ⟨hbefore, htight⟩
  · rintro ⟨h, htight⟩
    cases h with
    | @slashes n halone =>
      obtain ⟨m, rfl⟩ := Nat.exists_eq_add_of_lt halone
      rw [Nat.zero_add] at htight ⊢
      rcases htight with hslash | htight
      · rw [hslash]
        exact .slashes (n := 1) rfl
      · exact absurd htight (not_tight_slashes [] m)
    | @steps cs n hbefore h =>
      rcases htight with hslash | htight
      · rw [hslash]
        exact .slashes (n := 1) rfl
      · obtain ⟨hn, htight⟩ := (tight_slashes_append_iff h.ne_nil h.head).mp htight
        exact .steps hn (isSteps_strict_iff.mpr ⟨h, htight⟩)

/-- **Which texts are paths.** They are the rows of slashes, and the steps with rows of slashes in
front of them, between them and after them, of which only the last leads to attributes. So a text is
a location path, which has no empty step, just if it is read, no slash comes last and there are no
three in a row; and `/` is one. -/
theorem Query.parse_free_and_strict (text : String) :
    ((∃ query, Query.parse text = .ok query) ↔ IsPath .free (Text.trimChars text.toList)) ∧
    (IsPath .strict (Text.trimChars text.toList) ↔
      (∃ query, Query.parse text = .ok query) ∧
        (Text.trimChars text.toList = ['/'] ∨ Tight (Text.trimChars text.toList))) := by
  rw [exists_parse_iff]
  exact ⟨Iff.rfl, isPath_strict_iff⟩

/-- Three slashes between two steps are read, and so a path is not always a location path. -/
theorem Query.parse_accepts_empty_step :
    ¬ ∀ text query, Query.parse text = .ok query → IsPath .strict (Text.trimChars text.toList) := by
  intro hall
  have hparse : Query.parse "a///b" = .ok ⟨"a///b", false,
      [⟨.child, .name none "a"⟩, ⟨.descendantOrSelf, .node⟩, ⟨.child, .name none "b"⟩]⟩ := rfl
  rcases (isPath_strict_iff.mp (hall _ _ hparse)).2 with hslash | htight
  · exact absurd hslash (by decide)
  · exact htight.triple (by decide)

end SchemaFold.Path
