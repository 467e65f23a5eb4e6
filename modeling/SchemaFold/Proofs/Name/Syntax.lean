import SchemaFold.Name.Basic
import SchemaFold.Proofs.Text.Split
import SchemaFold.Text.Blank
/-!
The syntax of names.

* `Name.isRest_of_isNCName`: the characters of a plain name, none of which is white space
  (`Name.isSpace_eq_false`) or a mark of punctuation;
* `Name.splitQName_eq_some_iff`, `Name.splitQName_eq_none_iff`: prefix and local part of a name;
* `Name.isQName_iff`: a plain name, or two of them joined by a colon.
-/

namespace SchemaFold

/-! ### Characters -/

namespace Text

variable {c : Char} {ranges others : List (Nat × Nat)}

/-- Ranges one after the other. -/
def inOrder : List (Nat × Nat) → Bool
  | r :: s :: rest => Nat.ble r.1 s.1 && inOrder (s :: rest)
  | _ => true

/-- No range of one list meets one of the other, which are in order: the first of these that is not
before it is after it. -/
def areApart (ranges others : List (Nat × Nat)) : Bool :=
  inOrder others &&
    ranges.all (fun r => (others.find? (fun s => Nat.ble r.1 s.2)).all (fun s => Nat.blt r.2 s.1))

theorem le_of_inOrder {r : Nat × Nat} (h : inOrder (r :: ranges) = true) :
    ∀ s ∈ ranges, r.1 ≤ s.1 := by
  induction ranges generalizing r with
  | nil => simp
  | cons t rest ih =>
    rw [inOrder, Bool.and_eq_true, Nat.ble_eq] at h
    rw [List.forall_mem_cons]
    exact ⟨h.1, fun s hs => Nat.le_trans h.1 (ih h.2 s hs)⟩

theorem inOrder_of_cons {r : Nat × Nat} (h : inOrder (r :: ranges) = true) :
    inOrder ranges = true := by
  cases ranges with
  | nil => rfl
  | cons s rest =>
    rw [inOrder, Bool.and_eq_true] at h
    exact h.2

/-- A range is before or after each of some others if it is so for the first that it is not
after. -/
theorem lt_or_lt_of_find? {r : Nat × Nat} (horder : inOrder others = true)
    (h : (others.find? (fun s => Nat.ble r.1 s.2)).all (fun s => Nat.blt r.2 s.1) = true) :
    ∀ s ∈ others, s.2 < r.1 ∨ r.2 < s.1 := by
  induction others with
  | nil => simp
  | cons t rest ih =>
    rw [List.forall_mem_cons]
    by_cases hfound : r.1 ≤ t.2
    · rw [List.find?_cons, Nat.ble_eq.mpr hfound] at h
      have hafter : r.2 < t.1 := Nat.blt_eq.mp h
      exact ⟨Or.inr hafter, fun s hs =>
        Or.inr (Nat.lt_of_lt_of_le hafter (le_of_inOrder horder s hs))⟩
    · have hbefore : Nat.ble r.1 t.2 = false := Bool.eq_false_iff.mpr (mt Nat.ble_eq.mp hfound)
      rw [List.find?_cons, hbefore] at h
      exact ⟨Or.inl (Nat.lt_of_not_le hfound), ih (inOrder_of_cons horder) h⟩

theorem inRanges_eq_false (h : areApart ranges others = true) (hc : inRanges ranges c = true) :
    inRanges others c = false := by
  rw [areApart, Bool.and_eq_true, List.all_eq_true] at h
  obtain ⟨r, hr, hin⟩ := List.any_eq_true.mp hc
  refine Bool.eq_false_iff.mpr fun hother => ?_
  obtain ⟨s, hs, hin'⟩ := List.any_eq_true.mp hother
  simp only [Bool.and_eq_true, decide_eq_true_eq] at hin hin'
  rcases lt_or_lt_of_find? h.1 (h.2 r hr) s hs with hbefore | hafter
  · omega
  · omega

/-- The characters with the property White_Space, as ranges of code points. -/
def spaceRanges : List (Nat × Nat) :=
  [(0x09, 0x0D), (0x20, 0x20), (0x85, 0x85), (0xA0, 0xA0), (0x1680, 0x1680), (0x2000, 0x200A),
   (0x2028, 0x2028), (0x2029, 0x2029), (0x202F, 0x202F), (0x205F, 0x205F), (0x3000, 0x3000)]

theorem inRanges_of_isSpace (h : isSpace c = true) : inRanges spaceRanges c = true := by
  simp only [isSpace, Bool.or_eq_true, Bool.and_eq_true, decide_eq_true_eq, beq_iff_eq,
    Nat.eq_iff_le_and_ge, or_assoc] at h
  simpa only [inRanges, spaceRanges, List.any_cons, List.any_nil, Bool.or_eq_true,
    Bool.and_eq_true, decide_eq_true_eq, Bool.or_false, and_comm] using h

end Text

namespace Name

variable {c : Char} {s pfx localName : String}

theorem isRest_of_isStart (h : isStart c = true) : isRest c = true := by
  rw [isStart, Bool.or_eq_true] at h
  rcases h with hletter | hunderscore
  · simp [isRest, hletter]
  · simp [isRest, hunderscore]

/-- Small Latin letters are part of plain names. -/
theorem isRest_of_small (h : Text.inRanges [(0x61, 0x7A)] c = true) : isRest c = true := by
  obtain ⟨r, hr, hin⟩ := List.any_eq_true.mp h
  obtain rfl : r = (0x61, 0x7A) := List.mem_singleton.mp hr
  have hrange : (0x61, 0x7A) ∈ Text.letterRanges := List.mem_cons_of_mem _ List.mem_cons_self
  have hletter : Text.isLetter c = true := List.any_eq_true.mpr ⟨_, hrange, hin⟩
  simp [isRest, hletter]

/-- The marks of punctuation that names and paths are put together with. -/
def marks : List Char := [':', '*', '(', ')', '/', '@', '[']

/-- White space and the marks, as ranges of code points. -/
def outerRanges : List (Nat × Nat) :=
  [(0x28, 0x2A), (0x2F, 0x2F), (0x3A, 0x3A), (0x40, 0x40), (0x5B, 0x5B)] ++ Text.spaceRanges

/-- Ranges without letters, numbers and the single characters of plain names are not part of such
names. -/
theorem isRest_of_areApart {ranges : List (Nat × Nat)}
    (hapart : Text.areApart ranges Text.letterRanges = true ∧
      Text.areApart ranges Text.numberRanges = true)
    (hsingles : ['_', '-', '.', '\u00B7'].all (fun d => !Text.inRanges ranges d) = true)
    (h : Text.inRanges ranges c = true) : isRest c = false := by
  have hletter : Text.isLetter c = false := Text.inRanges_eq_false hapart.1 h
  have hnumber : Text.isNumber c = false := Text.inRanges_eq_false hapart.2 h
  have hsingle : ∀ d ∈ ['_', '-', '.', '\u00B7'], (c == d) = false := by
    intro d hd
    refine beq_eq_false_iff_ne.mpr fun heq => ?_
    have hnot := List.all_eq_true.mp hsingles d hd
    rw [← heq, h] at hnot
    exact absurd hnot (by decide)
  rw [isRest, hletter, hnumber, hsingle '_' (by decide), hsingle '-' (by decide),
    hsingle '.' (by decide), hsingle '\u00B7' (by decide)]
  rfl

/-- Neither white space nor the marks are in the ranges of letters and numbers. -/
theorem isRest_of_inRanges (h : Text.inRanges outerRanges c = true) : isRest c = false :=
  isRest_of_areApart (by decide +kernel) (by decide) h

/-- No mark is part of a plain name. -/
theorem isRest_of_mem_marks (h : c ∈ marks) : isRest c = false := by
  have hall : marks.all (Text.inRanges outerRanges) = true := by decide
  exact isRest_of_inRanges (List.all_eq_true.mp hall c h)

/-- No white space is part of a plain name. -/
theorem isSpace_eq_false (h : isRest c = true) : Text.isSpace c = false := by
  refine Bool.eq_false_iff.mpr fun hspace => ?_
  have houter : Text.inRanges outerRanges c = true := by
    rw [Text.inRanges, outerRanges, List.any_append, Bool.or_eq_true]
    exact Or.inr (Text.inRanges_of_isSpace hspace)
  rw [isRest_of_inRanges houter] at h
  exact absurd h (by decide)

theorem isSpace_of_mem_marks (h : c ∈ marks) : Text.isSpace c = false := by
  have hall : marks.all (fun mark => !Text.isSpace mark) = true := by decide
  exact (Bool.not_eq_true' _).mp (List.all_eq_true.mp hall c h)

/-! ### Plain names -/

theorem exists_cons_of_isNCName (h : isNCName s = true) :
    ∃ c cs, s.toList = c :: cs ∧ isStart c = true ∧ ∀ d ∈ cs, isRest d = true := by
  rw [isNCName] at h
  rcases hs : s.toList with _ | ⟨c, cs⟩
  · rw [hs] at h
    exact absurd h (by decide)
  · rw [hs, isNCNameChars, Bool.and_eq_true, List.all_eq_true] at h
    exact ⟨c, cs, rfl, h.1, h.2⟩

theorem isRest_of_isNCName (h : isNCName s = true) : ∀ c ∈ s.toList, isRest c = true := by
  obtain ⟨first, cs, hs, hfirst, hcs⟩ := exists_cons_of_isNCName h
  intro c hc
  rw [hs] at hc
  rcases List.mem_cons.mp hc with rfl | hc
  · exact isRest_of_isStart hfirst
  · exact hcs c hc

/-- No mark is in a plain name. -/
theorem notMem_of_isNCName (h : isNCName s = true) (hc : c ∈ marks) : c ∉ s.toList := by
  intro hmem
  have hrest := isRest_of_isNCName h c hmem
  rw [isRest_of_mem_marks hc] at hrest
  exact absurd hrest (by decide)

/-! ### Names with a prefix -/

theorem splitQName_eq_some_iff :
    splitQName s = (some pfx, localName) ↔
      s.toList = pfx.toList ++ ':' :: localName.toList ∧ ':' ∉ pfx.toList := by
  rw [← Text.cutAt_eq_some_iff, splitQName]
  rcases Text.cutAt ':' s with _ | ⟨first, last⟩
  · simp
  · simp

theorem splitQName_eq_none_iff :
    splitQName s = (none, localName) ↔ s = localName ∧ ':' ∉ s.toList := by
  rw [← Text.cutAt_eq_none_iff, splitQName]
  rcases Text.cutAt ':' s with _ | ⟨first, last⟩
  · simp
  · simp

theorem splitQName_of_isNCName (h : isNCName s = true) : splitQName s = (none, s) :=
  splitQName_eq_none_iff.mpr ⟨rfl, notMem_of_isNCName h (by decide)⟩

theorem splitQName_join (h : isNCName pfx = true) (localName : String) :
    splitQName (pfx ++ ":" ++ localName) = (some pfx, localName) := by
  refine splitQName_eq_some_iff.mpr ⟨?_, notMem_of_isNCName h (by decide)⟩
  simp

/-- A name with its parts: both of them are plain names. -/
theorem isQName_iff {parts : Option String × String} (hparts : splitQName s = parts) :
    isQName s = true ↔ (∀ pfx ∈ parts.1, isNCName pfx = true) ∧ isNCName parts.2 = true := by
  subst hparts
  rw [isQName]
  rcases splitQName s with ⟨_ | pfx, localName⟩
  · simp
  · simp

end Name

end SchemaFold
