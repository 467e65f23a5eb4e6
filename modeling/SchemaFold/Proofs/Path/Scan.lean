import Mathlib.Logic.Relation
import SchemaFold.Proofs.Path.Splitting
import SchemaFold.Proofs.Text.Bytes
import SchemaFold.Proofs.Text.Split
import SchemaFold.Proofs.Text.Trim
/-!
Cutting a path into its written steps byte by byte, and what this comes to.

* `Path.Scan.read?_of_ne_slash`, `Path.Scan.read?_of_slash`: what one step of a scan reads;
* `Path.Scan.Leaves`: what is left of a text to be cut up, which carries the induction;
* `Path.Scan.Leaves.exists_read?_eq_some`, `Path.Scan.Leaves.finish?_eq_some`: a scan is never
  stuck, and has the steps of what is left as its result;
* `Path.Scan.reached_opening`: what a path begins with is read at once as it would be byte by byte;
* `Path.split_eq_splitFrom`: the steps are the same as when the path is cut up by characters;
* `Path.split_eq_and_isSound`: the steps in terms of rows of slashes, and all a scan looks at.
-/

namespace SchemaFold.Path

open String (utf8Len)

namespace Scan

variable {text : String} {scan more : Scan} {steps : List String} {front rest : List Char} {i : Nat}

/-! ### One byte -/

/-- A byte is a slash just if it is that character. -/
theorem byte?_eq_slash_iff :
    Text.byte? text i = some slash ↔
      ∃ front rest, text.toList = front ++ '/' :: rest ∧ i = utf8Len front :=
  Text.byte?_eq_some_iff '/' (by decide)

theorem utf8ByteSize_eq (h : text.toList = front ++ rest) :
    text.utf8ByteSize = utf8Len front + utf8Len rest := by
  rw [← String.utf8Len_toList, h, String.utf8Len_append]

theorem utf8Len_slash_cons (rest : List Char) : utf8Len ('/' :: rest) = utf8Len rest + 1 := by
  rw [String.utf8Len_cons]
  rfl

/-- The byte after some characters is a slash just if the next character is. -/
theorem byte?_utf8Len_eq_slash_iff (h : text.toList = front ++ rest) :
    Text.byte? text (utf8Len front) = some slash ↔ rest.head? = some '/' := by
  rw [byte?_eq_slash_iff]
  constructor
  · rintro ⟨front', rest', htext, hsize⟩
    obtain ⟨piece, hfront, hrest⟩ :=
      Text.exists_eq_append_of_utf8Len_le (h ▸ htext) (Nat.le_of_eq hsize)
    have hempty : utf8Len piece = 0 := by
      rw [hfront, String.utf8Len_append] at hsize
      omega
    rw [hrest, String.utf8Len_eq_zero.mp hempty]
    rfl
  · intro hhead
    obtain ⟨rest, rfl⟩ := List.head?_eq_some_iff.mp hhead
    exact ⟨front, rest, h, rfl⟩

theorem isSlash?_of_lt (h : i < text.utf8ByteSize) :
    isSlash? text i = some (decide (Text.byte? text i = some slash)) := by
  obtain ⟨byte, hbyte⟩ := Text.exists_byte?_eq_some h
  rw [isSlash?, hbyte, Option.map_some, Option.some_inj]
  simp only [Option.some_inj]
  exact beq_eq_decide byte slash

/-- A slash is double if the next character is one. -/
theorem isDouble?_of_slash (h : text.toList = front ++ '/' :: rest) :
    isDouble? text (utf8Len front) = some (decide (rest.head? = some '/')) := by
  have hsize : text.utf8ByteSize = utf8Len front + 1 + utf8Len rest := by
    rw [utf8ByteSize_eq h, utf8Len_slash_cons]
    omega
  have hbyte : Text.byte? text (utf8Len front + 1) = some slash ↔ rest.head? = some '/' := by
    have htext : text.toList = front ++ ['/'] ++ rest := by simp [h]
    rw [← byte?_utf8Len_eq_slash_iff htext, String.utf8Len_append]
    rfl
  cases rest with
  | nil => rw [isDouble?, if_neg (by rw [hsize]; simp)]; rfl
  | cons c rest =>
    have hlt : utf8Len front + 1 < text.utf8ByteSize := by
      have hpos := c.utf8Size_pos
      rw [hsize, String.utf8Len_cons]
      omega
    rw [isDouble?, if_pos hlt, isSlash?_of_lt hlt, Option.some_inj, decide_eq_decide, hbyte]

/-- Reading past a byte of the current step. -/
theorem read?_of_ne_slash (hlt : scan.next < text.utf8ByteSize)
    (h : Text.byte? text scan.next ≠ some slash) :
    scan.read? text = some { scan with next := scan.next + 1 } := by
  rw [read?, isSlash?_of_lt hlt, decide_eq_false h]
  rfl

/-- Reading past a slash or two. -/
theorem read?_of_slash (h : text.toList = front ++ '/' :: rest) (hnext : scan.next = utf8Len front)
    (hclose : scan.close? text scan.next = some steps) :
    scan.read? text = some (if rest.head? = some '/'
      then after (steps ++ [descendantMark]) (scan.next + 2) else after steps (scan.next + 1)) := by
  have hlt : scan.next < text.utf8ByteSize := by
    rw [hnext, utf8ByteSize_eq h, utf8Len_slash_cons]
    omega
  have hbyte : Text.byte? text scan.next = some slash := by
    rw [hnext, byte?_utf8Len_eq_slash_iff h]
    rfl
  rw [read?, isSlash?_of_lt hlt, decide_eq_true hbyte, hclose, hnext, isDouble?_of_slash h]
  by_cases hdouble : rest.head? = some '/'
  · rw [if_pos hdouble, decide_eq_true hdouble]
    rfl
  · rw [if_neg hdouble, decide_eq_false hdouble]
    rfl

/-! ### What is left to be cut up -/

/-- The steps that a scan has found end before `rest`. The bytes that have been read of that are in
the text, and there is no slash among them. -/
structure Leaves (text : String) (scan : Scan) (rest : List Char) : Prop where
  start : ∃ before, text.toList = before ++ rest ∧ scan.start = utf8Len before
  start_le : scan.start ≤ scan.next
  next_le : scan.next ≤ text.utf8ByteSize
  ne_slash : ∀ i, scan.start ≤ i → i < scan.next → Text.byte? text i ≠ some slash

theorem leaves_after (steps : List String) (h : text.toList = front ++ rest) :
    (after steps (utf8Len front)).Leaves text rest where
  start := ⟨front, h, rfl⟩
  start_le := Nat.le_refl _
  next_le := by
    rw [utf8ByteSize_eq h]
    exact Nat.le_add_right _ _
  ne_slash := fun _ hle hlt => absurd hle (Nat.not_le.mpr hlt)

theorem utf8Len_slashes (n : Nat) : utf8Len (List.replicate n '/') = n := by
  induction n with
  | zero => rfl
  | succ n ih => rw [List.replicate_succ, utf8Len_slash_cons, ih]

/-- After a row of slashes what comes next is left. -/
theorem leaves_after_slashes (steps : List String) (n : Nat)
    (h : text.toList = front ++ (List.replicate n '/' ++ rest)) :
    (after steps (utf8Len front + n)).Leaves text rest := by
  have htext : text.toList = front ++ List.replicate n '/' ++ rest := by
    rw [h, List.append_assoc]
  have hleaves := leaves_after steps htext
  rwa [String.utf8Len_append, utf8Len_slashes] at hleaves

namespace Leaves

/-- At a slash and at the end, the current step is closed with what has been read of it. -/
theorem exists_close?_eq_some {left : List Char} (h : scan.Leaves text rest)
    (htext : text.toList = front ++ left) (hnext : scan.next = utf8Len front)
    (hleft : ∀ c ∈ left.head?, c = '/') :
    ∃ steps, scan.close? text scan.next = some steps ∧
      steps ++ splitFrom [] left = scan.steps ++ splitFrom [] rest := by
  obtain ⟨before, hbefore, hstart⟩ := h.start
  obtain ⟨piece, rfl, rfl⟩ := Text.exists_eq_append_of_utf8Len_le (hbefore ▸ htext)
    (hstart ▸ hnext ▸ h.start_le)
  have hslash : '/' ∉ piece := by
    -- its byte would be one of those that have been read
    intro hmem
    obtain ⟨first, last, rfl⟩ := List.append_of_mem hmem
    refine h.ne_slash (utf8Len (before ++ first)) ?_ ?_ ?_
    · rw [hstart, String.utf8Len_append]
      omega
    · rw [hnext, String.utf8Len_append, String.utf8Len_append, String.utf8Len_append,
        utf8Len_slash_cons]
      omega
    · have hsplit : text.toList = before ++ first ++ '/' :: (last ++ left) := by simp [hbefore]
      exact (byte?_utf8Len_eq_slash_iff hsplit).mpr rfl
  by_cases hpiece : piece = []
  · subst hpiece
    refine ⟨scan.steps, ?_, rfl⟩
    rw [close?, if_neg (by rw [hstart, hnext]; simp)]
  · refine ⟨scan.steps ++ [String.ofList piece], ?_, ?_⟩
    · have hpos : utf8Len piece ≠ 0 := fun hzero => hpiece (String.utf8Len_eq_zero.mp hzero)
      have hlt : scan.start < scan.next := by
        rw [hstart, hnext, String.utf8Len_append]
        omega
      rw [close?, if_pos hlt, hstart, hnext, String.utf8Len_append, Text.slice?_of_eq_append htext]
      rfl
    · rw [splitFrom_text hpiece hslash hleft, List.append_assoc]
      rfl

/-- **Reading on is possible as long as there are bytes, and changes nothing about the steps** that
the text has in the end. -/
theorem exists_read?_eq_some (h : scan.Leaves text rest) (hlt : scan.next < text.utf8ByteSize) :
    ∃ more left, scan.read? text = some more ∧ more.Leaves text left ∧
      more.steps ++ splitFrom [] left = scan.steps ++ splitFrom [] rest := by
  by_cases hbyte : Text.byte? text scan.next = some slash
  · -- a slash stands between characters, so the step before it can be cut out
    obtain ⟨front, left, htext, hnext⟩ := byte?_eq_slash_iff.mp hbyte
    obtain ⟨steps, hclose, hsteps⟩ := h.exists_close?_eq_some htext hnext
      fun c hc => (Option.some.inj hc).symm
    have hread := read?_of_slash htext hnext hclose
    by_cases hdouble : left.head? = some '/'
    · obtain ⟨left, rfl⟩ := List.head?_eq_some_iff.mp hdouble
      rw [if_pos hdouble, hnext] at hread
      refine ⟨_, left, hread, leaves_after_slashes _ 2 htext, ?_⟩
      rw [← hsteps, splitFrom_double]
      simp [after, flush]
    · rw [if_neg hdouble, hnext] at hread
      refine ⟨_, left, hread, leaves_after_slashes _ 1 htext, ?_⟩
      rw [← hsteps, splitFrom_single hdouble]
      simp [after, flush]
  · -- any other byte, be it one within a character, is left to the current step
    refine ⟨_, rest, read?_of_ne_slash hlt hbyte, ⟨h.start, ?_, hlt, ?_⟩, rfl⟩
    · exact Nat.le_succ_of_le h.start_le
    · intro i hle hi
      rcases Nat.lt_succ_iff_lt_or_eq.mp hi with hi | rfl
      · exact h.ne_slash i hle hi
      · exact hbyte

end Leaves

/-! ### Reading to the end -/

/-- The scan that comes after another one, as long as there are bytes to read. -/
def Reads (text : String) (scan more : Scan) : Prop :=
  scan.next < text.utf8ByteSize ∧ scan.read? text = some more

/-- The scans that reading comes to from the first byte on. -/
def Reached (text : String) : Scan → Prop := Relation.ReflTransGen (Reads text) (after [] 0)

/-- Reading always ends, because it goes forward. -/
theorem wellFounded_reads (text : String) : WellFounded fun more scan => Reads text scan more := by
  refine Subrelation.wf ?_ (measure fun scan : Scan => text.utf8ByteSize - scan.next).wf
  rintro more scan ⟨hlt, hread⟩
  exact Nat.sub_lt_sub_left hlt (next_lt_of_read? hread)

/-- Where the scan has come to makes no difference for how it ends. -/
theorem Reads.finish?_eq (h : Reads text scan more) : scan.finish? text = more.finish? text := by
  obtain ⟨hlt, hread⟩ := h
  have hrun : scan.run? text = more.run? text := by
    rw [run?, if_pos hlt]
    split
    · next hnone => rw [hnone] at hread; cases hread
    · next hsome => rw [hsome] at hread; cases hread; rfl
  rw [finish?, finish?, hrun]

theorem Reached.finish?_eq (h : Reached text scan) :
    scan.finish? text = (after [] 0).finish? text := by
  induction h with
  | refl => rfl
  | tail _ hreads ih => rw [← hreads.finish?_eq, ih]

/-- **A scan has a result**: the steps that it has found, and those of the text that is left. -/
theorem Leaves.finish?_eq_some (h : scan.Leaves text rest) :
    scan.finish? text = some (scan.steps ++ splitFrom [] rest) := by
  -- by induction on the bytes to come; when there are none, the current step is all that is left
  induction scan using (wellFounded_reads text).induction generalizing rest with
  | _ scan ih =>
    by_cases hlt : scan.next < text.utf8ByteSize
    · obtain ⟨more, left, hread, hmore, hsteps⟩ := h.exists_read?_eq_some hlt
      have hreads : Reads text scan more := ⟨hlt, hread⟩
      rw [hreads.finish?_eq, ih more hreads hmore, hsteps]
    · have hend : scan.next = text.utf8ByteSize := Nat.le_antisymm h.next_le (Nat.not_lt.mp hlt)
      have htext : text.toList = text.toList ++ [] := (List.append_nil _).symm
      have hnext : scan.next = utf8Len text.toList := by rw [hend, String.utf8Len_toList]
      obtain ⟨steps, hclose, hsteps⟩ := h.exists_close?_eq_some htext hnext (by simp)
      have hrun : scan.run? text = some scan := by rw [run?, if_neg hlt]
      have hfinish : scan.finish? text = scan.close? text text.utf8ByteSize := by
        rw [finish?, hrun]
        rfl
      rw [hfinish, ← hend, hclose, ← hsteps, splitFrom_nil]
      simp [flush]

theorem leaves_start (text : String) : (after [] 0).Leaves text text.toList := by
  have htext : text.toList = [] ++ text.toList := rfl
  exact leaves_after [] htext

/-- Wherever reading comes to, something is left to be cut up, if only nothing. -/
theorem Reached.exists_leaves (h : Reached text scan) : ∃ rest, scan.Leaves text rest := by
  induction h with
  | refl => exact ⟨_, leaves_start text⟩
  | tail _ hreads ih =>
    obtain ⟨rest, hleaves⟩ := ih
    obtain ⟨hlt, hread⟩ := hreads
    obtain ⟨more, left, hsome, hmore, _⟩ := hleaves.exists_read?_eq_some hlt
    obtain rfl := Option.some.inj (hsome.symm.trans hread)
    exact ⟨left, hmore⟩

/-- Everything that a scan looks at is in the text, and everything that it cuts out lies between
characters: the current step starts there, and a slash or the end stops it there. -/
structure IsSound (text : String) (scan : Scan) : Prop where
  start_le : scan.start ≤ scan.next
  next_le : scan.next ≤ text.utf8ByteSize
  start_isValid : String.Pos.Raw.IsValid text ⟨scan.start⟩
  next_isValid : scan.next = text.utf8ByteSize ∨ Text.byte? text scan.next = some slash →
    String.Pos.Raw.IsValid text ⟨scan.next⟩
  reads : scan.next < text.utf8ByteSize → ∃ more, Reads text scan more

theorem Leaves.isSound (h : scan.Leaves text rest) : scan.IsSound text where
  start_le := h.start_le
  next_le := h.next_le
  start_isValid := by
    obtain ⟨before, htext, hstart⟩ := h.start
    rw [hstart]
    exact Text.isValid_of_eq_append htext
  next_isValid := by
    rintro (hend | hslash)
    · rw [hend]
      exact String.Pos.Raw.isValid_rawEndPos
    · obtain ⟨front, left, htext, hnext⟩ := byte?_eq_slash_iff.mp hslash
      rw [hnext]
      exact Text.isValid_of_eq_append htext
  reads := fun hlt => by
    obtain ⟨more, _, hread, _⟩ := h.exists_read?_eq_some hlt
    exact ⟨more, hlt, hread⟩

/-! ### What a path begins with -/

/-- Reading comes past a slash or two, once the step before them can be closed. -/
theorem reached_of_slash (front : List Char) (h : text.toList = front ++ '/' :: rest)
    (hscan : Reached text scan) (hnext : scan.next = utf8Len front)
    (hclose : scan.close? text scan.next = some steps) :
    Reached text (if rest.head? = some '/' then after (steps ++ [descendantMark]) (scan.next + 2)
      else after steps (scan.next + 1)) := by
  refine hscan.tail ⟨?_, read?_of_slash h hnext hclose⟩
  rw [hnext, utf8ByteSize_eq h, utf8Len_slash_cons]
  omega

/-- A scan comes to what is left after a slash or two. -/
theorem reached_after_slash (h : text.toList = '/' :: rest) :
    Reached text (if rest.head? = some '/' then after [descendantMark] 2 else after [] 1) :=
  reached_of_slash [] h .refl rfl rfl

/-- A scan comes to what is left after a dot and a slash or two. -/
theorem reached_after_dot (h : text.toList = '.' :: '/' :: rest) :
    Reached text (if rest.head? = some '/' then after [".", descendantMark] 3
      else after ["."] 2) := by
  have hlt : 0 < text.utf8ByteSize := by
    rw [← String.utf8Len_toList, h, String.utf8Len_cons]
    exact Nat.lt_of_lt_of_le (Char.utf8Size_pos '.') (Nat.le_add_left _ _)
  have hdot : Text.byte? text 0 ≠ some slash := by
    have htext : text.toList = [] ++ '.' :: '/' :: rest := h
    have hfirst := byte?_utf8Len_eq_slash_iff htext
    rw [String.utf8Len_nil] at hfirst
    simp [hfirst]
  have hread : Reached text ⟨[], 0, 1⟩ := .tail .refl ⟨hlt, read?_of_ne_slash hlt hdot⟩
  have hclose : (⟨[], 0, 1⟩ : Scan).close? text 1 = some ["."] := by
    have htext : text.toList = [] ++ ['.'] ++ '/' :: rest := h
    have hslice := Text.slice?_of_eq_append htext
    rw [close?, if_pos Nat.one_pos]
    exact congrArg (Option.map _) hslice
  exact reached_of_slash ['.'] h hread rfl hclose

/-- A text that does not begin with two slashes has no more than one there. -/
theorem head?_ne_slash {start : String} (front : List Char)
    (h : text.toList = front ++ '/' :: rest) (hstart : start.toList = front ++ ['/', '/'])
    (hnot : ¬ Text.startsWith start text = true) : rest.head? ≠ some '/' := by
  intro hhead
  obtain ⟨rest, rfl⟩ := List.head?_eq_some_iff.mp hhead
  exact hnot (Text.startsWith_iff.mpr ⟨rest, by simp [h, hstart]⟩)

/-- **What a path begins with is read at once as it would be byte by byte.** -/
theorem reached_opening (text : String) : Reached text (opening text) := by
  by_cases hdotDouble : Text.startsWith ".//" text = true
  · obtain ⟨rest, h⟩ := Text.startsWith_iff.mp hdotDouble
    have htext : text.toList = '.' :: '/' :: '/' :: rest := h
    rw [opening, if_pos hdotDouble]
    exact reached_after_dot htext
  by_cases hdot : Text.startsWith "./" text = true
  · obtain ⟨rest, h⟩ := Text.startsWith_iff.mp hdot
    have htext : text.toList = '.' :: '/' :: rest := h
    have hreached := reached_after_dot htext
    rw [if_neg (head?_ne_slash ['.'] htext rfl hdotDouble)] at hreached
    rw [opening, if_neg hdotDouble, if_pos hdot]
    exact hreached
  by_cases hdouble : Text.startsWith "//" text = true
  · obtain ⟨rest, h⟩ := Text.startsWith_iff.mp hdouble
    have htext : text.toList = '/' :: '/' :: rest := h
    rw [opening, if_neg hdotDouble, if_neg hdot, if_pos hdouble]
    exact reached_after_slash htext
  by_cases hslash : Text.startsWith "/" text = true
  · obtain ⟨rest, h⟩ := Text.startsWith_iff.mp hslash
    have htext : text.toList = '/' :: rest := h
    have hreached := reached_after_slash htext
    rw [if_neg (head?_ne_slash [] htext rfl hdouble)] at hreached
    rw [opening, if_neg hdotDouble, if_neg hdot, if_neg hdouble, if_pos hslash]
    exact hreached
  rw [opening, if_neg hdotDouble, if_neg hdot, if_neg hdouble, if_neg hslash]
  exact .refl

end Scan

/-! ### Paths -/

/-- Nothing that is special about the beginning of a path makes a difference. -/
theorem split?_eq_finish? (path : String) :
    split? path = (Scan.after [] 0).finish? (Text.trim path) := by
  rw [split?]
  split
  · next hempty =>
    rw [(Scan.leaves_start _).finish?_eq_some, String.isEmpty_iff.mp hempty]
    rfl
  · split
    · next hdot =>
      rw [(Scan.leaves_start _).finish?_eq_some, hdot]
      rfl
    · exact (Scan.reached_opening _).finish?_eq

theorem split?_eq_some (path : String) :
    split? path = some (splitFrom [] (Text.trimChars path.toList)) := by
  rw [split?_eq_finish?, (Scan.leaves_start _).finish?_eq_some, Text.toList_trim]
  rfl

/-- A path has the steps that its characters say. -/
theorem split_eq_splitFrom (path : String) :
    split path = splitFrom [] (Text.trimChars path.toList) := by
  rw [split, split?_eq_some]
  rfl

/-- **What a path is cut into, and how.** Its steps are what stands between slashes, and one more
for every two slashes of a row. They are found byte by byte, with the beginning read at once as it
would be byte by byte. Wherever that comes to, the bytes looked at are in the text, what is cut out
lies between characters, and the steps are found in the end, which is always reached. -/
theorem split_eq_and_isSound (path : String) :
    split path = (stretches (Text.trimChars path.toList)).flatMap stepsOf ∧
    split? path = some (split path) ∧
    split? path = (Scan.after [] 0).finish? (Text.trim path) ∧
    Scan.Reached (Text.trim path) (Scan.opening (Text.trim path)) ∧
    (∀ scan, Scan.Reached (Text.trim path) scan →
      scan.IsSound (Text.trim path) ∧ scan.finish? (Text.trim path) = some (split path)) ∧
    WellFounded fun more scan => Scan.Reads (Text.trim path) scan more := by
  have hsome : split? path = some (split path) := by rw [split?_eq_some, split_eq_splitFrom]
  refine ⟨?_, hsome, split?_eq_finish? path, Scan.reached_opening _,
    fun scan hscan => ⟨?_, ?_⟩, Scan.wellFounded_reads _⟩
  · rw [split_eq_splitFrom, splitFrom_eq_flatMap_stretches]
  · obtain ⟨rest, hleaves⟩ := hscan.exists_leaves
    exact hleaves.isSound
  · rw [hscan.finish?_eq, ← split?_eq_finish?, hsome]

end SchemaFold.Path

namespace SchemaFold.Sample

open SchemaFold.Path

/-- A path with a letter of two bytes, in the midst of which the scan comes to stand. -/
theorem split_eq_and_isSound_of_accent :
    let middle : Scan := ⟨[], 0, 1⟩
    Scan.Reached "é///b" middle ∧ ¬ String.Pos.Raw.IsValid "é///b" ⟨middle.next⟩ ∧
      split " é///b" = ["é", descendantMark, "b"] ∧
      middle.IsSound "é///b" ∧ middle.finish? "é///b" = some ["é", descendantMark, "b"] := by
  intro middle
  have hreads : Scan.Reads "é///b" (.after [] 0) middle := ⟨by decide, by rfl⟩
  have hreached : Scan.Reached "é///b" middle := .tail .refl hreads
  have htrim : Text.trim " é///b" = "é///b" := by decide
  obtain ⟨hsplit, _, _, _, hscan, _⟩ := split_eq_and_isSound " é///b"
  have hsteps : split " é///b" = ["é", descendantMark, "b"] := hsplit.trans (by decide)
  rw [htrim, hsteps] at hscan
  exact ⟨hreached, by decide, hsteps, hscan middle hreached⟩

end SchemaFold.Sample
