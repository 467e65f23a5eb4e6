import Mathlib.Data.List.SplitBy
import Mathlib.Data.List.TakeWhile
import SchemaFold.Path.Scan
/-!
Cutting a path into its written steps, character by character.

* `Path.splitFrom`: the steps of a text, of which a beginning has been taken;
* `Path.splitFrom_text`, `Path.splitFrom_slashes`: a text is split into what stands between slashes,
  with a `.//` for every two slashes of a row;
* `Path.splitFrom_eq_flatMap_stretches`: so its longest stretches with and without slashes say which
  steps it has.
-/

namespace SchemaFold.Path

variable {taken cs rest : List Char} {c : Char}

/-- The step that has been collected in reverse, if any. -/
def flush (taken : List Char) : List String :=
  if taken.isEmpty then [] else [String.ofList taken.reverse]

/-- The steps of a text, of which `taken` is the beginning of the first one in reverse. -/
def splitFrom : (taken rest : List Char) → List String
  | taken, [] => flush taken
  | taken, '/' :: '/' :: rest => flush taken ++ descendantMark :: splitFrom [] rest
  | taken, '/' :: rest => flush taken ++ splitFrom [] rest
  | taken, c :: rest => splitFrom (c :: taken) rest

theorem splitFrom_nil (taken : List Char) : splitFrom taken [] = flush taken := by
  rw [splitFrom]

theorem splitFrom_double (taken rest : List Char) :
    splitFrom taken ('/' :: '/' :: rest) = flush taken ++ descendantMark :: splitFrom [] rest := by
  rw [splitFrom]

theorem splitFrom_single (h : rest.head? ≠ some '/') (taken : List Char) :
    splitFrom taken ('/' :: rest) = flush taken ++ splitFrom [] rest := by
  rw [splitFrom]
  rintro rest' rfl
  exact h rfl

theorem splitFrom_char (h : c ≠ '/') (taken rest : List Char) :
    splitFrom taken (c :: rest) = splitFrom (c :: taken) rest := by
  rw [splitFrom]
  · rintro _ rfl
    exact absurd rfl h
  · exact h

theorem flush_of_ne_nil (h : taken ≠ []) : flush taken = [String.ofList taken.reverse] := by
  rw [flush, if_neg (by simpa using h)]

/-- What has been collected of a step is kept until a slash or the end. -/
theorem splitFrom_append (h : '/' ∉ cs) (taken rest : List Char) :
    splitFrom taken (cs ++ rest) = splitFrom (cs.reverse ++ taken) rest := by
  induction cs generalizing taken with
  | nil => rfl
  | cons c cs ih =>
    rw [List.mem_cons, not_or] at h
    rw [List.cons_append, splitFrom_char (Ne.symm h.1), ih h.2]
    simp

theorem splitFrom_of_boundary (h : ∀ c ∈ rest.head?, c = '/') (taken : List Char) :
    splitFrom taken rest = flush taken ++ splitFrom [] rest := by
  match rest with
  | [] => rw [splitFrom_nil, splitFrom_nil]; simp [flush]
  | [c] =>
    obtain rfl := h c rfl
    rw [splitFrom_single (by simp), splitFrom_single (by simp)]
    rfl
  | c :: d :: rest =>
    obtain rfl := h c rfl
    by_cases hd : d = '/'
    · subst hd
      rw [splitFrom_double, splitFrom_double]
      rfl
    · have hsingle : (d :: rest).head? ≠ some '/' := by simpa using hd
      rw [splitFrom_single hsingle, splitFrom_single hsingle]
      rfl

/-- **A text without slashes is one step**, up to a slash or the end. -/
theorem splitFrom_text (hcs : cs ≠ []) (hslash : '/' ∉ cs) (h : ∀ c ∈ rest.head?, c = '/') :
    splitFrom [] (cs ++ rest) = String.ofList cs :: splitFrom [] rest := by
  rw [splitFrom_append hslash, splitFrom_of_boundary h, List.append_nil,
    flush_of_ne_nil (by simpa using hcs), List.reverse_reverse]
  rfl

/-- **Of a row of slashes every two are a step.** -/
theorem splitFrom_slashes (h : rest.head? ≠ some '/') (n : Nat) :
    splitFrom [] (List.replicate n '/' ++ rest) =
      List.replicate (n / 2) descendantMark ++ splitFrom [] rest := by
  match n with
  | 0 => rfl
  | 1 => rw [List.replicate_one, List.singleton_append, splitFrom_single h]; rfl
  | n + 2 =>
    have hhalf : (n + 2) / 2 = n / 2 + 1 := by omega
    rw [List.replicate_succ, List.replicate_succ, List.cons_append, List.cons_append,
      splitFrom_double, splitFrom_slashes h n, hhalf, List.replicate_succ]
    rfl

example : splitFrom [] "a///b/".toList = ["a", descendantMark, "b"] := by rfl

/-- Every text begins with a row of slashes, be it an empty one. -/
theorem exists_slashes (cs : List Char) :
    ∃ n rest, cs = List.replicate n '/' ++ rest ∧ rest.head? ≠ some '/' := by
  induction cs with
  | nil => exact ⟨0, [], rfl, by simp⟩
  | cons c cs ih =>
    by_cases hc : c = '/'
    · subst hc
      obtain ⟨n, rest, hcs, hhead⟩ := ih
      exact ⟨n + 1, rest, by rw [hcs, List.replicate_succ, List.cons_append], hhead⟩
    · exact ⟨0, c :: cs, rfl, by simpa using hc⟩

/-- A text that does not begin with a slash begins with a step. -/
theorem exists_splitFrom_cons (hc : c ≠ '/') (cs : List Char) :
    ∃ first rest, c :: cs = first ++ rest ∧ first ≠ [] ∧ '/' ∉ first ∧
      (∀ c ∈ rest.head?, c = '/') ∧
      splitFrom [] (c :: cs) = String.ofList first :: splitFrom [] rest := by
  have hparts : c :: cs = (c :: cs).takeWhile (· != '/') ++ (c :: cs).dropWhile (· != '/') :=
    List.takeWhile_append_dropWhile.symm
  have hfirst : (c :: cs).takeWhile (· != '/') ≠ [] := by simp [hc]
  have hslash : '/' ∉ (c :: cs).takeWhile (· != '/') := by
    intro hmem
    exact absurd (List.mem_takeWhile_imp hmem) (by decide)
  have hrest : ∀ d ∈ ((c :: cs).dropWhile (· != '/')).head?, d = '/' := by
    intro d hd
    have hnot := List.head?_dropWhile_not (· != '/') (c :: cs)
    rw [hd] at hnot
    simpa using hnot
  refine ⟨_, _, hparts, hfirst, hslash, hrest, ?_⟩
  rw [← splitFrom_text hfirst hslash hrest, ← hparts]

/-- A text that does not end with a slash leaves behind the beginning of a step. What it has been
split into does not depend on how it goes on. -/
theorem exists_splitFrom_append (hlast : cs.getLast? ≠ some '/') (htaken : cs = [] → taken ≠ []) :
    ∃ pieces left, left ≠ [] ∧
      ∀ rest, splitFrom taken (cs ++ rest) = pieces ++ splitFrom left rest := by
  -- a slash is not the last character, nor does what follows it end with one
  have hafter : ∀ {cs : List Char}, ('/' :: cs).getLast? ≠ some '/' →
      cs ≠ [] ∧ cs.getLast? ≠ some '/' := by
    intro cs hlast
    cases cs with
    | nil => exact absurd rfl hlast
    | cons d cs => exact ⟨nofun, by simpa using hlast⟩
  fun_induction splitFrom taken cs with
  | case1 taken => exact ⟨[], taken, htaken rfl, fun _ => rfl⟩
  | case2 taken cs ih =>
    obtain ⟨hne, hlast⟩ := hafter (hafter hlast).2
    obtain ⟨pieces, left, hleft, hsplit⟩ := ih hlast fun h => absurd h hne
    refine ⟨flush taken ++ descendantMark :: pieces, left, hleft, fun rest => ?_⟩
    rw [List.cons_append, List.cons_append, splitFrom_double, hsplit]
    simp
  | case3 taken cs hsingle ih =>
    obtain ⟨hne, hlast⟩ := hafter hlast
    obtain ⟨pieces, left, hleft, hsplit⟩ := ih hlast fun h => absurd h hne
    refine ⟨flush taken ++ pieces, left, hleft, fun rest => ?_⟩
    have hhead : (cs ++ rest).head? ≠ some '/' := by
      obtain ⟨d, cs, rfl⟩ := List.exists_cons_of_ne_nil hne
      intro h
      exact hsingle cs (by rw [Option.some.inj h])
    rw [List.cons_append, splitFrom_single hhead, hsplit, List.append_assoc]
  | case4 taken c cs _ hc ih =>
    have hlast' : cs.getLast? ≠ some '/' := by
      cases cs with
      | nil => simp
      | cons d cs => simpa using hlast
    obtain ⟨pieces, left, hleft, hsplit⟩ := ih hlast' nofun
    refine ⟨pieces, left, hleft, fun rest => ?_⟩
    rw [List.cons_append, splitFrom_char hc, hsplit]

/-- A text that does not end with a slash keeps its steps if a slash follows. -/
theorem splitFrom_append_of_boundary (hcs : cs ≠ []) (hlast : cs.getLast? ≠ some '/')
    (h : ∀ c ∈ rest.head?, c = '/') :
    splitFrom [] (cs ++ rest) = splitFrom [] cs ++ splitFrom [] rest := by
  obtain ⟨pieces, left, _, hsplit⟩ := exists_splitFrom_append hlast fun h => absurd h hcs
  have hwhole := hsplit []
  rw [List.append_nil, splitFrom_nil] at hwhole
  rw [hsplit, hwhole, splitFrom_of_boundary h, List.append_assoc]

/-! ### Stretches -/

/-- The stretches of a text, each as long as it can be: rows of slashes, and what stands between
them. -/
def stretches (cs : List Char) : List (List Char) :=
  cs.splitBy (fun c d => (c == '/') == (d == '/'))

/-- The steps that a stretch stands for. Of a row of slashes every two are a step. -/
def stepsOf (stretch : List Char) : List String :=
  if '/' ∈ stretch then List.replicate (stretch.length / 2) descendantMark
  else [String.ofList stretch]

/-- Characters of one kind are a stretch if one of the other kind comes after them, or the end. -/
theorem stretches_append (isSlash : Bool) (hcs : cs ≠ []) (hall : ∀ c ∈ cs, (c == '/') = isSlash)
    (hturn : ∀ c ∈ rest.head?, (c == '/') = !isSlash) :
    stretches (cs ++ rest) = cs :: stretches rest := by
  have hchain : List.IsChain (fun c d => ((c == '/') == (d == '/')) = true) cs := by
    refine (List.pairwise_of_forall_mem_list fun c hc d hd => ?_).isChain
    rw [hall c hc, hall d hd, beq_self_eq_true]
  have hbreak : ∀ c ∈ cs.getLast?, ∀ d ∈ rest.head?, ((c == '/') == (d == '/')) = false := by
    intro c hc d hd
    rw [hall c (List.mem_of_getLast? hc), hturn d hd]
    exact Bool.beq_not_self isSlash
  rw [stretches, List.splitBy_append hbreak, List.splitBy_of_isChain hcs hchain]
  rfl

theorem stepsOf_text (h : '/' ∉ cs) : stepsOf cs = [String.ofList cs] := if_neg h

theorem stepsOf_slashes (n : Nat) :
    stepsOf (List.replicate (n + 1) '/') = List.replicate ((n + 1) / 2) descendantMark := by
  rw [stepsOf, if_pos (by simp), List.length_replicate]

/-- **The stretches of a text say which steps it has.** -/
theorem splitFrom_eq_flatMap_stretches (cs : List Char) :
    splitFrom [] cs = (stretches cs).flatMap stepsOf := by
  -- stretch by stretch, from the front
  induction hlength : cs.length using Nat.strongRecOn generalizing cs with
  | ind length ih =>
    obtain ⟨n, rest, rfl, hhead⟩ := exists_slashes cs
    cases n with
    | zero =>
      cases rest with
      | nil => rfl
      | cons c rest =>
        have hc : c ≠ '/' := fun heq => hhead (congrArg some heq)
        obtain ⟨first, more, hcs, hfirst, hslash, hmore, hsplit⟩ := exists_splitFrom_cons hc rest
        have hstretch : stretches (first ++ more) = first :: stretches more := by
          refine stretches_append false hfirst (fun d hd => ?_) fun d hd => ?_
          · exact beq_eq_false_iff_ne.mpr fun heq => hslash (heq ▸ hd)
          · exact beq_iff_eq.mpr (hmore d hd)
        have hlt : more.length < length := by
          have hpos := List.length_pos_iff.mpr hfirst
          have hboth := congrArg List.length hcs
          simp only [List.length_append, List.length_cons, List.length_replicate] at hboth hlength
          omega
        rw [List.replicate_zero, List.nil_append, hsplit, hcs, hstretch, List.flatMap_cons,
          stepsOf_text hslash, ih _ hlt more rfl]
        rfl
    | succ n =>
      have hstretch : stretches (List.replicate (n + 1) '/' ++ rest) =
          List.replicate (n + 1) '/' :: stretches rest := by
        refine stretches_append true (by simp) (fun d hd => ?_) fun d hd => ?_
        · exact beq_iff_eq.mpr (List.eq_of_mem_replicate hd)
        · exact beq_eq_false_iff_ne.mpr fun heq => hhead (heq ▸ hd)
      have hlt : rest.length < length := by
        simp only [List.length_append, List.length_replicate] at hlength
        omega
      rw [splitFrom_slashes hhead, hstretch, List.flatMap_cons, stepsOf_slashes, ih _ hlt rest rfl]

end SchemaFold.Path
