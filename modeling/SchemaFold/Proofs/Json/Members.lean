import SchemaFold.Json.Typed
import SchemaFold.Proofs.Json.Strings
/-!
Objects are read member by member, with any white space between them.

* `Json.Blank`, `Json.Separator`, `Json.Colon`: white space, and the marks that it may surround;
* `Json.Scan.Reads`: what a reader makes of a part of a text, whatever follows;
* `Json.Scan.membersFrom_key`: one more member is read;
* `Json.Scan.object_of_members`: an object is read up to its closing brace;
* `Json.read_of_reads`: a whole text is read.
-/

namespace SchemaFold.Json

/-- White space, or nothing. -/
def Blank (cs : List Char) : Prop := ∀ c ∈ cs, Scan.isSpace c = true

/-- What stands before a key: a comma, unless it is the first. -/
def Separator (isFirst : Bool) (cs : List Char) : Prop :=
  ∃ before after, Blank before ∧ Blank after ∧
    cs = before ++ ((if isFirst then [] else [',']) ++ after)

/-- What stands between a key and its value. -/
def Colon (cs : List Char) : Prop :=
  ∃ before after, Blank before ∧ Blank after ∧ cs = before ++ ':' :: after

theorem Blank.nil : Blank [] := fun _ h => absurd h List.not_mem_nil

theorem Blank.append {cs ds : List Char} (h : Blank cs) (h' : Blank ds) : Blank (cs ++ ds) :=
  fun c hc => (List.mem_append.mp hc).elim (h c) (h' c)

namespace Scan

variable {α σ : Type} {space text rest cs cs' : List Char} {isFirst : Bool}

/-- A reader makes this of a part of a text, whatever follows. It passes over white space first. -/
def Reads (scan : Scan α) (text : List Char) (a : α) : Prop :=
  ∀ space rest, Blank space → scan (space ++ (text ++ rest)) = .ok (a, rest)

/-! ### Marks -/

theorem next_blank (hspace : Blank space) {c : Char} (hc : isSpace c = false) (rest : List Char) :
    next (space ++ c :: rest) = .ok (some c, c :: rest) := by
  have hdrop : (space ++ c :: rest).dropWhile isSpace = c :: rest := by
    rw [List.dropWhile_append_of_pos hspace, List.dropWhile_cons_of_neg (by simp [hc])]
  rw [next, bind_of_ok rfl, hdrop]
  rfl

theorem start_blank (hspace : Blank space) {c : Char} (hc : isSpace c = false)
    (rest : List Char) : start (space ++ c :: rest) = .ok (c, c :: rest) := by
  rw [start, bind_of_ok (next_blank hspace hc rest)]
  rfl

theorem nextMember_key (h : Separator isFirst cs) (rest : List Char) :
    nextMember isFirst (cs ++ '"' :: rest) = .ok (true, '"' :: rest) := by
  obtain ⟨before, after, hbefore, hafter, rfl⟩ := h
  cases isFirst with
  | true =>
    -- there is no comma, so the white space before and after it is one run
    have hspace : Blank (before ++ after) := hbefore.append hafter
    have hchars : before ++ ([] ++ after) ++ '"' :: rest = (before ++ after) ++ '"' :: rest := by
      simp
    rw [if_pos rfl, hchars, nextMember, bind_of_ok (next_blank hspace rfl rest)]
    rfl
  | false =>
    have hchars : before ++ ([','] ++ after) ++ '"' :: rest =
        before ++ ',' :: (after ++ '"' :: rest) := by
      simp
    rw [if_neg Bool.false_ne_true, hchars, nextMember, bind_of_ok (next_blank hbefore rfl _)]
    show (skip >>= _) _ = _
    rw [bind_of_ok rfl, List.drop_one, List.tail_cons, bind_of_ok (next_blank hafter rfl rest)]
    rfl

theorem nextMember_end (hspace : Blank space) (isFirst : Bool) (rest : List Char) :
    nextMember isFirst (space ++ '\x7d' :: rest) = .ok (false, '\x7d' :: rest) := by
  rw [nextMember, bind_of_ok (next_blank hspace rfl rest)]
  rfl

/-- A value is read after its colon. -/
theorem bind_colon {scan : Scan α} {a : α} (h : Colon cs) (hreads : scan.Reads text a)
    (rest : List Char) :
    (colon >>= fun _ => scan) (cs ++ (text ++ rest)) = .ok (a, rest) := by
  obtain ⟨before, after, hbefore, hafter, rfl⟩ := h
  have hchars : before ++ ':' :: after ++ (text ++ rest) =
      before ++ ':' :: (after ++ (text ++ rest)) := by
    simp
  have hcolon : colon (before ++ ':' :: (after ++ (text ++ rest))) =
      .ok ((), after ++ (text ++ rest)) := by
    rw [colon, bind_of_ok (next_blank hbefore rfl _)]
    rfl
  rw [hchars, bind_of_ok hcolon]
  exact hreads after rest hafter

/-! ### Members -/

variable {member : String → σ → Scan σ} {s s' : σ}

/-- **One more member is read.** -/
theorem membersFrom_key {key : String} (h : Separator isFirst text)
    (hmember : member key s cs = .ok (s', cs')) (fuel : Nat) :
    membersFrom member (fuel + 1) isFirst s (text ++ (quoted key ++ cs)) =
      membersFrom member fuel false s' cs' := by
  have hnext : nextMember isFirst (text ++ (quoted key ++ cs)) = .ok (true, quoted key ++ cs) :=
    nextMember_key h _
  rw [membersFrom, bind_of_ok hnext, if_pos rfl, bind_of_ok (string_quoted key cs),
    bind_of_ok hmember]

theorem membersFrom_end (hspace : Blank space) (fuel : Nat) (isFirst : Bool) (s : σ)
    (rest : List Char) :
    membersFrom member (fuel + 1) isFirst s (space ++ '\x7d' :: rest) =
      .ok (s, '\x7d' :: rest) := by
  rw [membersFrom, bind_of_ok (nextMember_end hspace isFirst rest)]
  rfl

/-- The only member of an object is read. -/
theorem members_of_single {key : String} (h : Separator true text)
    (hmember : member key s cs = .ok (s', space ++ '\x7d' :: rest)) (hspace : Blank space) :
    members member s (text ++ (quoted key ++ cs)) = .ok (s', '\x7d' :: rest) := by
  obtain ⟨n, hn⟩ : ∃ n, (text ++ (quoted key ++ cs)).length = n + 1 := by
    refine Nat.exists_eq_add_of_le' ?_
    simp only [quoted, quotedChars, List.length_append, List.length_cons]
    omega
  rw [members, bind_of_ok rfl, hn, membersFrom_key h hmember, membersFrom_end hspace]

theorem within_of_ok {body : Scan α} {a : α} (h : body cs = .ok (a, '\x7d' :: rest)) :
    within '\x7d' body cs = .ok (a, rest) := by
  rw [within, h]
  rfl

theorem enter_of_lt {room : Nat} (h : 1 < room) (c : Char) (cs : List Char) :
    enter room (c :: cs) = .ok ((), cs) := by
  rw [enter, if_neg (Nat.not_le_of_lt h)]
  rfl

theorem braces_append (inside rest : List Char) :
    '\x7b' :: (inside ++ ['\x7d']) ++ rest = '\x7b' :: (inside ++ '\x7d' :: rest) := by
  simp

/-- **An object is read up to its closing brace.** -/
theorem object_of_members {room : Nat} (hroom : 1 < room)
    (h : members member s cs = .ok (s', '\x7d' :: rest)) :
    object room member s ('\x7b' :: cs) = .ok (s', rest) := by
  rw [object, bind_of_ok (enter_of_lt hroom _ cs)]
  exact within_of_ok h

end Scan

/-- What a reader makes of a whole text. -/
theorem read_of_reads {α : Type} {scan : Scan α} {text : List Char} {a : α}
    (h : scan.Reads text a) : read scan (String.ofList text) = .ok a := by
  have hscan : scan text = .ok (a, []) := by
    have hreads := h [] [] .nil
    rwa [List.nil_append, List.append_nil] at hreads
  rw [read, String.toList_ofList]
  simp only [Scan.bind_of_ok hscan]
  rfl

end SchemaFold.Json
