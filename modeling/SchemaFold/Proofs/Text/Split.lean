import SchemaFold.Text.Split
/-!
Where a text is cut.

* `Text.cutChars_eq_some_iff`: the cut is at the first mark;
* `Text.cutChars_eq_none_iff`: there is none if there is no mark;
* `Text.dropPrefix?_eq_some_iff`, `Text.startsWith_iff`: what follows a beginning.
-/

namespace SchemaFold.Text

variable {mark : Char} {cs before after start rest : List Char}

/-- **A text is cut at its first mark.** -/
theorem cutChars_eq_some_iff :
    cutChars mark cs = some (before, after) ↔ cs = before ++ mark :: after ∧ mark ∉ before := by
  induction cs generalizing before with
  | nil => simp [cutChars]
  | cons c cs ih =>
    rw [cutChars]
    by_cases hc : c = mark
    · subst hc
      rw [if_pos rfl]
      constructor
      · rintro ⟨⟩
        exact ⟨rfl, List.not_mem_nil⟩
      · rintro ⟨hcs, hbefore⟩
        cases before with
        | nil => cases hcs; rfl
        | cons d before =>
          obtain ⟨rfl, _⟩ := List.cons.inj hcs
          exact absurd List.mem_cons_self hbefore
    · rw [if_neg hc, Option.map_eq_some_iff]
      constructor
      · rintro ⟨⟨first, last⟩, hcut, hparts⟩
        cases hparts
        obtain ⟨rfl, hfirst⟩ := ih.mp hcut
        exact ⟨rfl, List.not_mem_cons_of_ne_of_not_mem (Ne.symm hc) hfirst⟩
      · rintro ⟨hcs, hbefore⟩
        cases before with
        | nil => exact absurd (List.cons.inj hcs).1 hc
        | cons d before =>
          obtain ⟨rfl, hrest⟩ := List.cons.inj hcs
          have hcut := ih.mpr ⟨hrest, fun h => hbefore (List.mem_cons_of_mem _ h)⟩
          exact ⟨(before, after), hcut, rfl⟩

theorem cutChars_eq_none_iff : cutChars mark cs = none ↔ mark ∉ cs := by
  induction cs with
  | nil => simp [cutChars]
  | cons c cs ih =>
    rw [cutChars]
    by_cases hc : c = mark
    · simp [hc]
    · rw [if_neg hc, Option.map_eq_none_iff, ih, List.mem_cons, not_or]
      exact ⟨fun h => ⟨Ne.symm hc, h⟩, And.right⟩

theorem cutAt_eq_some_iff {s first last : String} :
    cutAt mark s = some (first, last) ↔
      s.toList = first.toList ++ mark :: last.toList ∧ mark ∉ first.toList := by
  rw [cutAt, Option.map_eq_some_iff, ← cutChars_eq_some_iff]
  constructor
  · rintro ⟨parts, hcut, hparts⟩
    cases hparts
    simpa using hcut
  · intro hcut
    exact ⟨_, hcut, by simp⟩

theorem cutAt_eq_none_iff {s : String} : cutAt mark s = none ↔ mark ∉ s.toList := by
  rw [cutAt, Option.map_eq_none_iff, cutChars_eq_none_iff]

theorem dropPrefix?_eq_some_iff : dropPrefix? start cs = some rest ↔ cs = start ++ rest := by
  induction start generalizing cs with
  | nil => simp [dropPrefix?, eq_comm]
  | cons a start ih =>
    cases cs with
    | nil => simp [dropPrefix?]
    | cons c cs =>
      rw [dropPrefix?]
      by_cases hc : a = c
      · subst hc
        rw [if_pos rfl, ih, List.cons_append, List.cons.injEq]
        exact (and_iff_right rfl).symm
      · rw [if_neg hc]
        refine ⟨nofun, fun hcs => ?_⟩
        exact absurd (List.cons.inj hcs).1.symm hc

theorem startsWith_iff {start s : String} :
    startsWith start s = true ↔ ∃ rest, s.toList = start.toList ++ rest := by
  rw [startsWith, Option.isSome_iff_exists]
  simp only [dropPrefix?_eq_some_iff]

end SchemaFold.Text
