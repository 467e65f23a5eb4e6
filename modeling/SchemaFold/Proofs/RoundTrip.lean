import SchemaFold.Model
import SchemaFold.Proofs.Context.Spelling
/-!
Contexts and models come back from the JSON that they are written as.

* `Context.read_compact`: a context is read from its text;
* `Model.reads_of_spelling`: a model is read from any text that writes it;
* `Model.read_compact`, `Model.read_pretty`: so it is read from both layouts;
* `Context.recovered_from_json`: nothing is lost, so different contexts have different texts.

What bounds the nesting is the reader. Texts that are too deep for it differ all the same, as they
would be read with more room.
-/

namespace SchemaFold

open Json (Record Scan)
open Json.Scan

namespace Context

variable {c : Context} {room : Nat}

theorem read_compact (hc : c.Distinct) (hroom : c.levels < room) :
    Json.read (scan room) c.compact = .ok c :=
  Json.read_of_reads ((spelling_compactEntries true c).scan hc hroom)

end Context

namespace Model

variable {model : Model} {cs : List Char} {room : Nat}

theorem member_elements {room : Nat} {cs cs' : List Char} {elements : Context}
    (h : (colon >>= fun _ => Context.scan room) cs = .ok (elements, cs')) :
    record.member room "elements" ([], record.blank) cs =
      .ok ((["elements"], some elements), cs') := by
  have hmember : record.member room "elements" ([], record.blank) = (do
      colon
      let write ← (do
        let elements ← Context.scan room
        return fun _ => some elements)
      return (["elements"], write none)) := rfl
  simp only [bind_assoc, pure_bind] at hmember
  rw [hmember, ← bind_assoc, bind_of_ok h]
  rfl

/-- **A model is read from a text that writes it.** -/
theorem reads_of_spelling (h : Context.Spelling true model.wrapped cs)
    (hdistinct : model.elements.Distinct) (hroom : model.elements.levels + 1 < room) :
    (record.read room).Reads ('\x7b' :: (cs ++ ['\x7d'])) model := by
  intro space rest hspace
  rw [braces_append, Record.read, bind_of_ok (start_blank hspace rfl _), if_pos rfl,
    bind_of_ok (enter_of_lt (by omega) _ _)]
  refine within_of_ok ?_
  -- there is one member, and its value is read like a context on its own
  have hmembers : members (record.member (room - 1)) ([], record.blank) (cs ++ '\x7d' :: rest) =
      .ok ((["elements"], some model.elements), '\x7d' :: rest) := by
    obtain _ | _ | @⟨_, _, _, _, before, colon, inside, last, hbefore, hcolon, hinner, hlast⟩ := h
    obtain ⟨hlast⟩ := hlast
    have helements := hinner.scan hdistinct (Nat.lt_sub_of_add_lt hroom)
    have hmember := member_elements (bind_colon hcolon helements (last ++ '\x7d' :: rest))
    simp only [List.append_assoc]
    exact members_of_single hbefore hmember hlast
  rw [bind_of_ok hmembers]
  rfl

theorem read_compact (hdistinct : model.elements.Distinct)
    (hroom : model.elements.levels + 1 < room) :
    Json.read (record.read room) model.compact = .ok model :=
  Json.read_of_reads (reads_of_spelling (Context.spelling_compactEntries true _) hdistinct hroom)

theorem read_pretty (hdistinct : model.elements.Distinct)
    (hroom : model.elements.levels + 1 < room) :
    Json.read (record.read room) model.pretty = .ok model := by
  have hspelling := (Context.spelling_prettyEntries 1 true model.wrapped).append_blank
    (Context.blank_last model.wrapped 0)
  exact Json.read_of_reads (reads_of_spelling hspelling hdistinct hroom)

end Model

/-- A text that one reader takes for two things is no text of different things. -/
theorem eq_of_read {α : Type} {scan : Scan α} {text text' : String} {a b : α}
    (h : Json.read scan text = .ok a) (h' : Json.read scan text' = .ok b) (htext : text = text') :
    a = b := by
  rw [htext, h'] at h
  exact (Except.ok.inj h).symm

/-- **Nothing is lost in JSON.** A context comes back with its keys in order from its text, if it is
nested no deeper than a reader goes, and so does the model of it from either layout. Different
contexts have different texts, however deep they are. -/
theorem Context.recovered_from_json (c : Context) (hc : c.Distinct) :
    (c.levels ≤ 127 → Context.ofJson c.compact = .ok c) ∧
    (c.levels ≤ 126 →
      Model.ofJson (Model.mk c).compact = .ok ⟨c⟩ ∧ Model.ofJson (Model.mk c).pretty = .ok ⟨c⟩) ∧
    ∀ d : Context, d.Distinct → c ≠ d →
      c.compact ≠ d.compact ∧ (Model.mk c).compact ≠ (Model.mk d).compact ∧
        (Model.mk c).pretty ≠ (Model.mk d).pretty := by
  refine ⟨fun hlevels => read_compact hc (Nat.lt_succ_of_le hlevels), fun hlevels => ?_,
    fun d hd hne => ?_⟩
  · have hroom : c.levels + 1 < 128 := by omega
    exact ⟨Model.read_compact hc hroom, Model.read_pretty hc hroom⟩
  · -- a reader with room for both takes them apart
    obtain ⟨room, hroom⟩ : ∃ room, room = c.levels + d.levels + 2 := ⟨_, rfl⟩
    have hmodel : Model.mk c ≠ Model.mk d := fun heq => hne (congrArg Model.elements heq)
    have hcroom : c.levels + 1 < room := by omega
    have hdroom : d.levels + 1 < room := by omega
    refine ⟨fun htext => ?_, fun htext => ?_, fun htext => ?_⟩
    · exact hne (eq_of_read (read_compact hc (Nat.lt_of_succ_lt hcroom))
        (read_compact hd (Nat.lt_of_succ_lt hdroom)) htext)
    · exact hmodel (eq_of_read (Model.read_compact hc hcroom) (Model.read_compact hd hdroom) htext)
    · exact hmodel (eq_of_read (Model.read_pretty hc hcroom) (Model.read_pretty hd hdroom) htext)

namespace Sample

/-- A context whose keys and texts need care, with a text in the inner one. -/
def unwieldy (text : String) : Context :=
  .scalar "" "a quote \", a slash \\, \x00\x1b\n\u2028"
    (.nested "𝄞" (.scalar "\t" text .empty) .empty)

theorem recovered_from_json_of_unwieldy :
    (unwieldy "").Distinct ∧ (unwieldy "").levels ≤ 126 ∧
    Context.ofJson (unwieldy "").compact = .ok (unwieldy "") ∧
    Model.ofJson (Model.mk (unwieldy "")).compact = .ok ⟨unwieldy ""⟩ ∧
    Model.ofJson (Model.mk (unwieldy "")).pretty = .ok ⟨unwieldy ""⟩ ∧
    (unwieldy "").compact ≠ (unwieldy "\x7f").compact := by
  have hdistinct (text : String) : (unwieldy text).Distinct := by
    simp [unwieldy, Context.Distinct, Context.keys]
  have hlevels : (unwieldy "").levels = 2 := rfl
  obtain ⟨hcontext, hmodel, hother⟩ := Context.recovered_from_json (unwieldy "") (hdistinct "")
  obtain ⟨hcompact, hpretty⟩ := hmodel (by omega)
  exact ⟨hdistinct "", by omega, hcontext (by omega), hcompact, hpretty,
    (hother (unwieldy "\x7f") (hdistinct "\x7f") (by decide)).1⟩

end Sample

end SchemaFold
