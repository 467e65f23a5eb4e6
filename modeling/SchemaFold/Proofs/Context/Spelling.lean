import SchemaFold.Context.Json
import SchemaFold.Proofs.Context.Levels
import SchemaFold.Proofs.Context.Overlay
import SchemaFold.Proofs.Context.Reordered
import SchemaFold.Proofs.Json.Members
/-!
The texts that write a context, and what is read from them.

* `Context.Spelling`: a text writes these entries, with any white space around the marks;
* `Context.spelling_compactEntries`, `Context.spelling_prettyEntries`: both layouts do;
* `Context.Spelling.membersFrom`: whoever reads the text gets the entries back in their order;
* `Context.Spelling.scan`: and so does the reader of contexts, if there is room for the levels.

A reader has no more room inside an object than around it, less one. So the induction is on how the
text is put together, for all readers of members and all amounts of room at once.
-/

namespace SchemaFold.Context

open Json (Blank Colon Scan Separator)
open Json.Scan

variable {c : Context} {cs : List Char} {isFirst : Bool}

/-- A text writes the entries of an object, up to its closing brace. -/
inductive Spelling : (isFirst : Bool) → Context → List Char → Prop
  | empty {isFirst : Bool} {space : List Char} (hspace : Blank space) :
    Spelling isFirst .empty space
  | scalar {isFirst : Bool} (key text : String) {rest : Context} {before colon cs : List Char}
    (hbefore : Separator isFirst before) (hcolon : Colon colon) (hrest : Spelling false rest cs) :
    Spelling isFirst (.scalar key text rest)
      (before ++ (Json.quoted key ++ (colon ++ (Json.quoted text ++ cs))))
  | nested {isFirst : Bool} (key : String) {inner rest : Context}
    {before colon inside cs : List Char} (hbefore : Separator isFirst before)
    (hcolon : Colon colon) (hinner : Spelling true inner inside)
    (hrest : Spelling false rest cs) :
    Spelling isFirst (.nested key inner rest)
      (before ++ (Json.quoted key ++ (colon ++ ('\x7b' :: (inside ++ ['\x7d']) ++ cs))))

/-! ### The two layouts -/

theorem spelling_compactEntries (isFirst : Bool) (c : Context) :
    Spelling isFirst c (compactEntries isFirst c) := by
  have hbefore : ∀ isFirst : Bool, Separator isFirst (if isFirst then [] else [',']) :=
    fun isFirst => ⟨[], [], .nil, .nil, by simp⟩
  have hcolon : Colon [':'] := ⟨[], [], .nil, .nil, rfl⟩
  induction c generalizing isFirst with
  | empty => exact .empty .nil
  | scalar key text rest ih =>
    have hspelling := Spelling.scalar key text (hbefore isFirst) hcolon (ih false)
    rw [compactEntries]
    simpa using hspelling
  | nested key inner rest ihInner ih =>
    have hspelling := Spelling.nested key (hbefore isFirst) hcolon (ihInner true) (ih false)
    rw [compactEntries]
    simpa using hspelling

theorem blank_newLine (level : Nat) : Blank (newLine level) := by
  intro c hc
  rcases List.mem_cons.mp hc with rfl | hc
  · rfl
  · rw [(List.mem_replicate.mp hc).2]
    rfl

/-- White space may be added before the closing brace. -/
theorem Spelling.append_blank (h : Spelling isFirst c cs) {space : List Char}
    (hspace : Blank space) : Spelling isFirst c (cs ++ space) := by
  induction h with
  | empty hbefore => exact .empty (hbefore.append hspace)
  | scalar key text hbefore hcolon _ ih =>
    simpa using Spelling.scalar key text hbefore hcolon ih
  | nested key hbefore hcolon hinner _ _ ih =>
    simpa using Spelling.nested key hbefore hcolon hinner ih

theorem blank_last (c : Context) (level : Nat) :
    Blank (if c.isEmpty then [] else newLine level) := by
  split
  · exact .nil
  · exact blank_newLine level

theorem spelling_prettyEntries (level : Nat) (isFirst : Bool) (c : Context) :
    Spelling isFirst c (prettyEntries level isFirst c) := by
  have hbefore : ∀ (level : Nat) (isFirst : Bool),
      Separator isFirst ((if isFirst then [] else [',']) ++ newLine level) :=
    fun level isFirst => ⟨[], newLine level, .nil, blank_newLine level, rfl⟩
  have hcolon : Colon [':', ' '] :=
    ⟨[], [' '], .nil, fun c hc => by rw [List.mem_singleton.mp hc]; rfl, rfl⟩
  induction c generalizing level isFirst with
  | empty => exact .empty .nil
  | scalar key text rest ih =>
    have hspelling := Spelling.scalar key text (hbefore level isFirst) hcolon (ih level false)
    rw [prettyEntries]
    simpa using hspelling
  | nested key inner rest ihInner ih =>
    have hinner := (ihInner (level + 1) true).append_blank (blank_last inner level)
    have hspelling := Spelling.nested key (hbefore level isFirst) hcolon hinner (ih level false)
    rw [prettyEntries]
    simpa using hspelling

/-! ### Reading them -/

/-- Each entry takes a character or more. -/
theorem Spelling.size_le_length (h : Spelling isFirst c cs) : c.size ≤ cs.length := by
  induction h with
  | empty => exact Nat.zero_le _
  | scalar _ _ _ _ _ ih =>
    simp only [size, List.length_append, Json.quoted, Json.quotedChars, List.length_cons]
    omega
  | nested _ _ _ _ _ _ ih =>
    simp only [size, List.length_append, Json.quoted, Json.quotedChars, List.length_cons]
    omega

/-- So the length of a text is fuel enough. -/
theorem Spelling.size_lt (h : Spelling isFirst c cs) (rest : List Char) :
    c.size < (cs ++ rest).length + 1 := by
  have hlength := h.size_le_length
  rw [List.length_append]
  omega

/-- A reader of members puts each value that it finds into the context that it keeps. -/
def Gathers {σ : Type} (room : Nat) (member : String → σ → Scan σ) (wrap : Context → σ) : Prop :=
  ∀ key value base cs cs', (colon >>= fun _ => scanValue room) cs = .ok (some value, cs') →
    member key (wrap base) cs = .ok (wrap (base.put key value), cs')

/-- How a member is read in an object inside another. -/
def scanMember (room : Nat) (key : String) (before : Option Context) : Scan (Option Context) := do
  colon
  return extend before key (← scanValue room)

theorem gathers_scanMember (room : Nat) : Gathers room (scanMember room) some := by
  intro key value base cs cs' h
  show (colon >>= fun _ => scanValue room >>= fun found =>
    pure (extend (some base) key found)) cs = _
  rw [← bind_assoc, bind_of_ok h]
  rfl

theorem scanValue_quoted (room : Nat) (text : String) :
    (scanValue (room + 1)).Reads (Json.quoted text) (some (.scalar text)) := by
  intro space rest hspace
  have hchars : Json.quoted text ++ rest =
      '"' :: (text.toList.flatMap Json.escape ++ ['"'] ++ rest) := rfl
  have hstring := string_quoted text rest
  rw [hchars] at hstring
  rw [hchars, scanValue, bind_of_ok (next_blank hspace rfl _)]
  show (string >>= _) _ = _
  rw [bind_of_ok hstring]
  rfl

theorem scanValue_object {room : Nat} {inner : Context} {inside : List Char}
    (h : ∀ rest, object (room + 1) (scanMember room) (some .empty)
      ('\x7b' :: (inside ++ '\x7d' :: rest)) = .ok (some inner, rest)) :
    (scanValue (room + 1)).Reads ('\x7b' :: (inside ++ ['\x7d'])) (some (.context inner)) := by
  intro space rest hspace
  rw [braces_append, scanValue, bind_of_ok (next_blank hspace rfl _)]
  show (object (room + 1) (scanMember room) (some .empty) >>= _) _ = _
  rw [bind_of_ok (h rest)]
  rfl

theorem membersFrom_entry {σ : Type} {room : Nat} {member : String → σ → Scan σ}
    {wrap : Context → σ} {key : String} {value : Value} {before colon text : List Char}
    (hmember : Gathers room member wrap) (hbefore : Separator isFirst before)
    (hcolon : Colon colon) (hvalue : (scanValue room).Reads text (some value)) (base : Context)
    (fuel : Nat) (cs : List Char) :
    membersFrom member (fuel + 1) isFirst (wrap base)
        (before ++ (Json.quoted key ++ (colon ++ (text ++ cs)))) =
      membersFrom member fuel false (wrap (base.put key value)) cs :=
  membersFrom_key hbefore (hmember _ _ _ _ _ (bind_colon hcolon hvalue cs)) fuel

/-- **Whoever reads the text gets the entries back in their order.** -/
theorem Spelling.membersFrom (h : Spelling isFirst c cs) (hc : c.Distinct) {σ : Type} {room : Nat}
    {member : String → σ → Scan σ} {wrap : Context → σ} (hmember : Gathers room member wrap)
    (hroom : c.levels ≤ room) (base : Context) {fuel : Nat} (hfuel : c.size < fuel)
    (rest : List Char) :
    membersFrom member fuel isFirst (wrap base) (cs ++ '\x7d' :: rest) =
      .ok (wrap (base.overlay c), '\x7d' :: rest) := by
  induction h generalizing σ room base fuel rest with
  | empty hspace =>
    obtain ⟨fuel, rfl⟩ := Nat.exists_eq_add_of_lt hfuel
    exact membersFrom_end hspace _ _ _ rest
  | @scalar isFirst key text others before colon cs hbefore hcolon _ ih =>
    -- each member takes one unit of fuel, and a text takes one level of room
    obtain ⟨fuel, rfl⟩ := Nat.exists_eq_add_of_le' (Nat.one_le_of_lt hfuel)
    have hvalue : (scanValue room).Reads (Json.quoted text) (some (.scalar text)) := by
      obtain ⟨room, rfl⟩ := Nat.exists_eq_add_of_le' (Nat.le_trans (one_le_levels _) hroom)
      exact scanValue_quoted room text
    simp only [List.append_assoc]
    rw [membersFrom_entry hmember hbefore hcolon hvalue]
    exact ih hc.2 hmember hroom _ (Nat.lt_of_succ_lt_succ hfuel) rest
  | @nested isFirst key inner others before colon inside cs hbefore hcolon hinner _ ihInner ih =>
    obtain ⟨fuel, rfl⟩ := Nat.exists_eq_add_of_le' (Nat.one_le_of_lt hfuel)
    obtain ⟨-, hdistinct, hothers⟩ := hc
    -- the inner object takes one level of the room, and its members are read with the rest
    have hlevels : inner.levels + 1 ≤ room := Nat.le_trans (Nat.le_max_left ..) hroom
    have hvalue : (scanValue room).Reads ('\x7b' :: (inside ++ ['\x7d']))
        (some (.context inner)) := by
      obtain ⟨room, rfl⟩ := Nat.exists_eq_add_of_le' (Nat.le_trans (Nat.le_add_left 1 _) hlevels)
      have hone := inner.one_le_levels
      refine scanValue_object fun rest => object_of_members (by omega) ?_
      have hread := ihInner hdistinct (gathers_scanMember room) (Nat.le_of_succ_le_succ hlevels)
        .empty (hinner.size_lt ('\x7d' :: rest)) rest
      rwa [empty_overlay hdistinct.nodup_keys] at hread
    simp only [List.append_assoc]
    rw [membersFrom_entry hmember hbefore hcolon hvalue]
    exact ih hothers hmember (Nat.le_trans (Nat.le_max_right ..) hroom) _
      (Nat.lt_of_succ_lt_succ hfuel) rest

theorem Spelling.members (h : Spelling true c cs) (hc : c.Distinct) {σ : Type} {room : Nat}
    {member : String → σ → Scan σ} {wrap : Context → σ} (hmember : Gathers room member wrap)
    (hroom : c.levels ≤ room) (rest : List Char) :
    members member (wrap .empty) (cs ++ '\x7d' :: rest) = .ok (wrap c, '\x7d' :: rest) := by
  have hread := h.membersFrom hc hmember hroom .empty (h.size_lt ('\x7d' :: rest)) rest
  rwa [empty_overlay hc.nodup_keys] at hread

/-- How a member is read in the outermost object. -/
def scanEntry (room : Nat) (key : String) (c : Context) : Scan Context := do
  colon
  match ← scanValue room with
  | some value => return c.put key value
  | none => failOpen .noVariant

theorem gathers_scanEntry (room : Nat) : Gathers room (scanEntry room) id := by
  intro key value base cs cs' h
  rw [scanEntry, ← bind_assoc, bind_of_ok h]
  rfl

/-- **A context is read from a text that writes it.** -/
theorem Spelling.scan (h : Spelling true c cs) (hc : c.Distinct) {room : Nat}
    (hroom : c.levels < room) : (Context.scan room).Reads ('\x7b' :: (cs ++ ['\x7d'])) c := by
  intro space rest hspace
  have hone := c.one_le_levels
  have hmembers := h.members hc (gathers_scanEntry (room - 1)) (Nat.le_sub_one_of_lt hroom) rest
  rw [braces_append, Context.scan, bind_of_ok (start_blank hspace rfl _), if_pos rfl]
  exact object_of_members (by omega) hmembers

end SchemaFold.Context
