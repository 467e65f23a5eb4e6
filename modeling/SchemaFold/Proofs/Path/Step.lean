import SchemaFold.Path.Query
import SchemaFold.Proofs.Name.Syntax
import SchemaFold.Proofs.Text.Trim
/-!
The written forms of steps.

* `NodeTest.written`, `NodeTest.isProper`: how a test is written, and which tests can be: their
  names are plain names;
* `NodeTest.parse_eq_ok_iff`: a text is a test just if it is the written form of a proper one;
* `Step.written`, `Step.spellings`, `Step.isProper`: the same for steps, which have a short form and
  in most cases a long one;
* `Step.parse_eq_ok_iff`: a text is a step just if it is a spelling of a proper one, with any white
  space around it.
-/

namespace SchemaFold.Path

/-! ### Tests -/

namespace NodeTest

/-- A test as it is written. -/
def written : NodeTest → String
  | .any => "*"
  | .anyIn pfx => pfx ++ ":" ++ "*"
  | .name none localName => localName
  | .name (some pfx) localName => pfx ++ ":" ++ localName
  | .text => "text()"
  | .node => "node()"

/-- The names of the test are plain names. -/
def isProper : NodeTest → Bool
  | .anyIn pfx => Name.isNCName pfx
  | .name none localName => Name.isNCName localName
  | .name (some pfx) localName => Name.isNCName pfx && Name.isNCName localName
  | .any | .text | .node => true

variable {test : NodeTest} {text : String} {c : Char}

/-! #### Characters -/

theorem mem_written (h : test.isProper = true) (hc : c ∈ test.written.toList) :
    Name.isRest c = true ∨ c ∈ [':', '*', '(', ')'] := by
  have hkeyword : ∀ word ∈ ["text()", "node()"], ∀ d ∈ word.toList,
      Name.isRest d = true ∨ d ∈ [':', '*', '(', ')'] := by
    have hall : ["text()", "node()"].all (fun word => word.toList.all fun d =>
        Text.inRanges [(0x61, 0x7A)] d || [':', '*', '(', ')'].contains d) = true := by decide
    simp only [List.all_eq_true, Bool.or_eq_true, List.contains_iff_mem] at hall
    exact fun word hword d hd => (hall word hword d hd).imp_left Name.isRest_of_small
  cases test with
  | any =>
    have hstar : c = '*' := by simpa [written] using hc
    simp [hstar]
  | anyIn pfx =>
    have hparts : c ∈ pfx.toList ∨ c = ':' ∨ c = '*' := by simpa [written] using hc
    rcases hparts with hpfx | rfl | rfl
    · exact Or.inl (Name.isRest_of_isNCName h c hpfx)
    · simp
    · simp
  | name pfx localName =>
    cases pfx with
    | none => exact Or.inl (Name.isRest_of_isNCName h c hc)
    | some pfx =>
      rw [isProper, Bool.and_eq_true] at h
      have hparts : c ∈ pfx.toList ∨ c = ':' ∨ c ∈ localName.toList := by
        simpa [written] using hc
      rcases hparts with hpfx | rfl | hlocal
      · exact Or.inl (Name.isRest_of_isNCName h.1 c hpfx)
      · simp
      · exact Or.inl (Name.isRest_of_isNCName h.2 c hlocal)
  | text => exact hkeyword "text()" (by simp) c hc
  | node => exact hkeyword "node()" (by simp) c hc

/-- A mark that is none of those of tests is in no test. -/
theorem notMem_written (h : test.isProper = true) (hc : c ∈ Name.marks)
    (hother : c ∉ [':', '*', '(', ')']) : c ∉ test.written.toList := by
  intro hmem
  rcases mem_written h hmem with hname | hmark
  · rw [Name.isRest_of_mem_marks hc] at hname
    exact absurd hname (by decide)
  · exact hother hmark

theorem isSpace_of_mem_written (h : test.isProper = true) (hc : c ∈ test.written.toList) :
    Text.isSpace c = false := by
  rcases mem_written h hc with hname | hmark
  · exact Name.isSpace_eq_false hname
  · exact Name.isSpace_of_mem_marks (List.mem_append_left ['/', '@', '['] hmark)

theorem written_ne_empty (h : test.isProper = true) : test.written.toList ≠ [] := by
  intro hempty
  have hname : ∀ {s : String}, Name.isNCName s = true → s.toList ≠ [] := by
    intro s hs hnil
    obtain ⟨first, rest, hcons, _⟩ := Name.exists_cons_of_isNCName hs
    rw [hnil] at hcons
    exact absurd hcons (by simp)
  cases test with
  | any => exact absurd hempty (by decide)
  | anyIn pfx => simp [written] at hempty
  | name pfx localName =>
    cases pfx with
    | none => exact hname h hempty
    | some pfx => simp [written] at hempty
  | text => exact absurd hempty (by decide)
  | node => exact absurd hempty (by decide)

/-- There is at most one colon in a test. -/
theorem count_colon_written (h : test.isProper = true) :
    test.written.toList.count ':' ≤ 1 := by
  have hname : ∀ {s : String}, Name.isNCName s = true → s.toList.count ':' = 0 :=
    fun hs => List.count_eq_zero_of_not_mem (Name.notMem_of_isNCName hs (by decide))
  cases test with
  | any => decide
  | anyIn pfx => simp [written, hname h]
  | name pfx localName =>
    cases pfx with
    | none => rw [written, hname h]; exact Nat.zero_le _
    | some pfx =>
      rw [isProper, Bool.and_eq_true] at h
      simp [written, hname h.1, hname h.2]
  | text => decide
  | node => decide

/-! #### Reading -/

/-- The tests that are words of their own. -/
def keywords : List String := ["*", "text()", "node()"]

theorem parse_of_notMem_keywords (h : text ∉ keywords) : parse text = parseName text := by
  simp only [keywords, List.mem_cons, List.not_mem_nil, or_false, not_or] at h
  rw [parse, if_neg h.1, if_neg h.2.1, if_neg h.2.2]

theorem parseName_of_plain {localName : String}
    (hsplit : Name.splitQName text = (none, localName)) :
    parseName text =
      if Name.isNCName localName then .ok (.name none localName)
      else .error (.invalidName text) := by
  rw [parseName, hsplit]
  rfl

theorem parseName_of_joined {pfx localName : String}
    (hsplit : Name.splitQName text = (some pfx, localName)) :
    parseName text =
      if Name.isNCName pfx then
        if localName = "*" then .ok (.anyIn pfx)
        else if Name.isNCName localName then .ok (.name (some pfx) localName)
        else .error (.invalidName text)
      else .error (.invalidPrefix text) := by
  rw [parseName, hsplit]
  show (checkPrefix text (some pfx)).bind _ = _
  rw [checkPrefix]
  split
  · rfl
  · rfl

theorem parse_written (h : test.isProper = true) : parse test.written = .ok test := by
  have hmarked : ∀ word ∈ keywords, '*' ∈ word.toList ∨ '(' ∈ word.toList := by decide
  have hplain : ∀ word ∈ keywords, Name.isNCName word ≠ true := by
    intro word hword hname
    rcases hmarked word hword with hmark | hmark
    · exact Name.notMem_of_isNCName hname (by decide) hmark
    · exact Name.notMem_of_isNCName hname (by decide) hmark
  have hjoined : ∀ word ∈ keywords, ':' ∉ word.toList := by decide
  -- no word is a name, and none has a prefix
  have hsplit : ∀ {pfx : String}, Name.isNCName pfx = true → ∀ rest,
      pfx ++ ":" ++ rest ∉ keywords := by
    intro pfx hpfx rest hword
    exact hjoined _ hword (by simp)
  cases test with
  | any => rfl
  | anyIn pfx =>
    have hpfx : Name.isNCName pfx = true := h
    rw [written, parse_of_notMem_keywords (hsplit hpfx _),
      parseName_of_joined (Name.splitQName_join hpfx _), if_pos hpfx, if_pos rfl]
  | name pfx localName =>
    cases pfx with
    | none =>
      have hlocal : Name.isNCName localName = true := h
      have hword : localName ∉ keywords := fun hword => hplain _ hword hlocal
      rw [written, parse_of_notMem_keywords hword,
        parseName_of_plain (Name.splitQName_of_isNCName hlocal), if_pos hlocal]
    | some pfx =>
      rw [isProper, Bool.and_eq_true] at h
      have hstar : localName ≠ "*" := by
        rintro rfl
        exact hplain "*" (by decide) h.2
      rw [written, parse_of_notMem_keywords (hsplit h.1 _),
        parseName_of_joined (Name.splitQName_join h.1 _), if_pos h.1, if_neg hstar, if_pos h.2]
  | text => rfl
  | node => rfl

/-- **A text is a test just if it is the written form of a proper one.** -/
theorem parse_eq_ok_iff : parse text = .ok test ↔ test.isProper = true ∧ text = test.written := by
  refine ⟨fun h => ?_, fun ⟨hproper, htext⟩ => htext ▸ parse_written hproper⟩
  -- a text that is none of the words is cut at its first colon
  by_cases hword : text ∈ keywords
  · simp only [keywords, List.mem_cons, List.not_mem_nil, or_false] at hword
    rcases hword with rfl | rfl | rfl
    · cases h; exact ⟨rfl, rfl⟩
    · cases h; exact ⟨rfl, rfl⟩
    · cases h; exact ⟨rfl, rfl⟩
  · rw [parse_of_notMem_keywords hword] at h
    rcases hsplit : Name.splitQName text with ⟨_ | pfx, localName⟩
    · obtain ⟨rfl, _⟩ := Name.splitQName_eq_none_iff.mp hsplit
      rw [parseName_of_plain hsplit] at h
      split at h
      · cases h
        exact ⟨by assumption, rfl⟩
      · cases h
    · have htext : text = pfx ++ ":" ++ localName := by
        rw [← String.toList_inj, (Name.splitQName_eq_some_iff.mp hsplit).1]
        simp
      rw [parseName_of_joined hsplit] at h
      split at h
      · rename_i hpfx
        split at h
        · rename_i hstar
          cases h
          refine ⟨hpfx, ?_⟩
          rw [htext, hstar]
          rfl
        · split at h
          · rename_i hlocal
            cases h
            refine ⟨?_, htext⟩
            rw [isProper, hpfx, hlocal]
            rfl
          · cases h
      · cases h

end NodeTest

/-! ### Steps -/

namespace Step

/-- The short form of a step. -/
def written : Step → String
  | ⟨.child, test⟩ => test.written
  | ⟨.attribute, test⟩ => "@" ++ test.written
  | ⟨.self, _⟩ => "."
  | ⟨.parent, _⟩ => ".."
  | ⟨.descendantOrSelf, _⟩ => descendantMark

/-- All forms of a step, the short one first. -/
def spellings : Step → List String
  | ⟨.child, test⟩ => [test.written, "child::" ++ test.written]
  | ⟨.attribute, test⟩ => ["@" ++ test.written, "attribute::" ++ test.written]
  | ⟨.self, _⟩ => [".", "self::node()"]
  | ⟨.parent, _⟩ => ["..", "parent::node()"]
  | ⟨.descendantOrSelf, _⟩ => [descendantMark]

/-- A step that can be written: its test is proper, and fits the axis. -/
def isProper : Step → Bool
  | ⟨.child, test⟩ => test.isProper
  | ⟨.attribute, test⟩ => test.isProper && test != .text
  | ⟨.self, test⟩ | ⟨.parent, test⟩ | ⟨.descendantOrSelf, test⟩ => test == .node

variable {step : Step} {test : NodeTest} {text : String}

theorem written_mem_spellings (step : Step) : step.written ∈ step.spellings := by
  obtain ⟨axis, test⟩ := step
  cases axis <;> exact List.mem_cons_self

/-! #### Axes -/

/-- What follows the axis is a test of its own. -/
theorem axisOf_eq (cs : List Char) :
    (∃ rest, axisOf cs = (.attribute, rest) ∧
      (cs = '@' :: rest ∨ cs = "attribute::".toList ++ rest)) ∨
    (∃ rest, axisOf cs = (.child, rest) ∧ (cs = rest ∨ cs = "child::".toList ++ rest)) := by
  unfold axisOf
  split
  · exact Or.inl ⟨_, rfl, Or.inl rfl⟩
  · split
    · rename_i rest hrest
      exact Or.inl ⟨rest, rfl, Or.inr (Text.dropPrefix?_eq_some_iff.mp hrest)⟩
    · split
      · rename_i rest hrest
        exact Or.inr ⟨rest, rfl, Or.inr (Text.dropPrefix?_eq_some_iff.mp hrest)⟩
      · exact Or.inr ⟨cs, rfl, Or.inl rfl⟩

/-- The short form of a test does not look like an axis. -/
theorem axisOf_written (h : test.isProper = true) :
    axisOf test.written.toList = (.child, test.written.toList) := by
  have hat : '@' ∉ test.written.toList :=
    NodeTest.notMem_written h (by decide) (by decide)
  have hcolons : ∀ first rest, test.written.toList ≠ first ++ ':' :: ':' :: rest := by
    intro first rest heq
    have hcount := NodeTest.count_colon_written h
    rw [heq, List.count_append, List.count_cons_self, List.count_cons_self] at hcount
    omega
  -- both long axes end with two colons
  have hattribute : "attribute::".toList = "attribute".toList ++ [':', ':'] := by decide
  have hchild : "child::".toList = "child".toList ++ [':', ':'] := by decide
  rcases axisOf_eq test.written.toList with ⟨rest, _, hrest | hrest⟩ | ⟨rest, haxis, hrest | hrest⟩
  · rw [hrest] at hat
    exact absurd List.mem_cons_self hat
  · rw [hattribute, List.append_assoc] at hrest
    exact absurd hrest (hcolons _ rest)
  · rw [haxis, hrest]
  · rw [hchild, List.append_assoc] at hrest
    exact absurd hrest (hcolons _ rest)

theorem axisOf_at (rest : List Char) : axisOf ('@' :: rest) = (.attribute, rest) := rfl

theorem axisOf_attribute (rest : List Char) :
    axisOf ("attribute::".toList ++ rest) = (.attribute, rest) := rfl

theorem axisOf_child (rest : List Char) :
    axisOf ("child::".toList ++ rest) = (.child, rest) := rfl

/-! #### Reading -/

theorem parseFull_eq {axis : Axis} {rest : List Char} (haxis : axisOf text.toList = (axis, rest)) :
    parseFull text =
      if '[' ∈ rest then .error (.predicate text)
      else (NodeTest.parse (String.ofList rest)).bind fun test =>
        if axis = .attribute ∧ test = .text then .error (.textOfAttributes text)
        else .ok ⟨axis, test⟩ := by
  rw [parseFull, haxis]
  by_cases hbracket : '[' ∈ rest
  · simp only [hbracket, List.contains_eq_mem, decide_true, if_true]
    rfl
  · simp only [hbracket, List.contains_eq_mem, decide_false, if_false, Bool.and_eq_true,
      decide_eq_true_eq]
    rcases NodeTest.parse (String.ofList rest) with fault | test
    · rfl
    · by_cases htext : axis = .attribute ∧ test = .text
      · simp only [bind, Except.bind, htext, and_self, if_true]
        rfl
      · simp only [bind, Except.bind, htext, if_false]
        rfl

theorem parseFull_eq_ok_iff {axis : Axis} :
    parseFull text = .ok ⟨axis, test⟩ ↔
      axisOf text.toList = (axis, test.written.toList) ∧ test.isProper = true ∧
        (axis = .attribute → test ≠ .text) := by
  rcases haxis : axisOf text.toList with ⟨found, rest⟩
  rw [parseFull_eq haxis]
  constructor
  · intro h
    split at h
    · cases h
    · rcases hparse : NodeTest.parse (String.ofList rest) with fault | kept
      · rw [hparse] at h
        cases h
      · rw [hparse, Except.bind] at h
        split at h
        · cases h
        · rename_i hfits
          cases h
          obtain ⟨hproper, hwritten⟩ := NodeTest.parse_eq_ok_iff.mp hparse
          have hrest : rest = test.written.toList := by rw [← hwritten, String.toList_ofList]
          exact ⟨by rw [hrest], hproper, fun haxis htext => hfits ⟨haxis, htext⟩⟩
  · rintro ⟨hparts, hproper, hfits⟩
    cases hparts
    have hbracket : '[' ∉ test.written.toList :=
      NodeTest.notMem_written hproper (by decide) (by decide)
    have hno : ¬ (axis = .attribute ∧ test = .text) := fun h => hfits h.1 h.2
    rw [if_neg hbracket, String.ofList_toList, NodeTest.parse_written hproper, Except.bind,
      if_neg hno]

/-- The abbreviations for whole steps, and their long forms. -/
def abbreviations : List String :=
  [".", "self::node()", "..", "parent::node()", descendantMark]

theorem parse_of_notMem_abbreviations (h : Text.trim text ∉ abbreviations) :
    parse text = parseFull (Text.trim text) := by
  simp only [abbreviations, descendantMark, List.mem_cons, List.not_mem_nil, or_false, not_or] at h
  simp only [parse, h, decide_false, Bool.or_self, Bool.false_eq_true, if_false]

/-- No abbreviation is a step with an axis and a test. -/
theorem notMem_abbreviations (h : parseFull text = .ok step) : text ∉ abbreviations := by
  intro hmem
  have hnone : ∀ word ∈ abbreviations, (parseFull word).isOk = false := by decide +kernel
  have hok := hnone text hmem
  rw [h] at hok
  exact Bool.noConfusion hok

/-- A spelling with an axis and a test is read as such. -/
theorem parseFull_of_mem_spellings (haxis : step.axis = .child ∨ step.axis = .attribute)
    (hproper : step.isProper = true) (h : text ∈ step.spellings) : parseFull text = .ok step := by
  obtain ⟨axis, test⟩ := step
  rcases haxis with rfl | rfl
  · refine parseFull_eq_ok_iff.mpr ⟨?_, hproper, nofun⟩
    simp only [spellings, List.mem_cons, List.not_mem_nil, or_false] at h
    rcases h with rfl | rfl
    · exact axisOf_written hproper
    · rw [String.toList_append]
      exact axisOf_child _
  · rw [isProper, Bool.and_eq_true, bne_iff_ne] at hproper
    refine parseFull_eq_ok_iff.mpr ⟨?_, hproper.1, fun _ => hproper.2⟩
    simp only [spellings, List.mem_cons, List.not_mem_nil, or_false] at h
    rcases h with rfl | rfl
    · rw [String.toList_append]
      exact axisOf_at _
    · rw [String.toList_append]
      exact axisOf_attribute _

/-- What is read as an axis and a test is one of their spellings. -/
theorem mem_spellings_of_parseFull (h : parseFull text = .ok step) :
    step.isProper = true ∧ text ∈ step.spellings := by
  obtain ⟨axis, test⟩ := step
  obtain ⟨hparts, hproper, hfits⟩ := parseFull_eq_ok_iff.mp h
  have htext : ∀ {start : String}, text.toList = start.toList ++ test.written.toList →
      text = start ++ test.written := by
    intro start hchars
    rw [← String.toList_inj, hchars, String.toList_append]
  rcases axisOf_eq text.toList with ⟨rest, haxis, hchars⟩ | ⟨rest, haxis, hchars⟩
  · rw [hparts] at haxis
    cases haxis
    refine ⟨?_, ?_⟩
    · rw [isProper, hproper, Bool.true_and, bne_iff_ne]
      exact hfits rfl
    · rcases hchars with hchars | hchars
      · exact List.mem_cons.mpr (Or.inl (htext hchars))
      · exact List.mem_cons_of_mem _ (List.mem_singleton.mpr (htext hchars))
  · rw [hparts] at haxis
    cases haxis
    refine ⟨hproper, ?_⟩
    rcases hchars with hchars | hchars
    · exact List.mem_cons.mpr (Or.inl (String.toList_inj.mp hchars))
    · exact List.mem_cons_of_mem _ (List.mem_singleton.mpr (htext hchars))

/-- **A text is a step just if it is a spelling of a proper one**, with any white space around
it. -/
theorem parse_eq_ok_iff :
    parse text = .ok step ↔ step.isProper = true ∧ Text.trim text ∈ step.spellings := by
  constructor
  · intro h
    by_cases hword : Text.trim text ∈ abbreviations
    · simp only [abbreviations, List.mem_cons, List.not_mem_nil, or_false] at hword
      rcases hword with hword | hword | hword | hword | hword
      all_goals
        rw [parse, hword] at h
        cases h
        exact ⟨rfl, by simp [hword, spellings]⟩
    · rw [parse_of_notMem_abbreviations hword] at h
      exact mem_spellings_of_parseFull h
  · rintro ⟨hproper, hmem⟩
    have hfull : step.axis = .child ∨ step.axis = .attribute → parse text = .ok step := by
      intro haxis
      have hparse := parseFull_of_mem_spellings haxis hproper hmem
      rw [parse_of_notMem_abbreviations (notMem_abbreviations hparse), hparse]
    -- the axes in the order of their definition
    obtain ⟨_ | _ | _ | _ | _, test⟩ := step
    · exact hfull (Or.inl rfl)
    · exact hfull (Or.inr rfl)
    · obtain rfl : test = .node := beq_iff_eq.mp hproper
      simp only [spellings, List.mem_cons, List.not_mem_nil, or_false] at hmem
      simp [parse, hmem, descendantMark]
    · obtain rfl : test = .node := beq_iff_eq.mp hproper
      simp only [spellings, List.mem_cons, List.not_mem_nil, or_false] at hmem
      simp [parse, hmem]
    · obtain rfl : test = .node := beq_iff_eq.mp hproper
      simp only [spellings, List.mem_cons, List.not_mem_nil, or_false] at hmem
      rcases hmem with hmem | hmem
      · simp [parse, hmem]
      · simp [parse, hmem]

end Step

end SchemaFold.Path
