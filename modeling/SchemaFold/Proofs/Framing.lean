import Mathlib.Data.List.Forall2
import SchemaFold.Emit.Lines
import SchemaFold.Proofs.RoundTrip
/-!
One record a line.

Strings are written with escapes for all control characters, so no record has a line feed in it. The
line feeds of an output are those after the records, and whoever cuts the output at them gets the
records back.

* `Json.isPlain_escape`, `Context.isPlain_compactChars`: no control characters in what is written;
* `Output.write_of_ok`: what has been written if all of it fitted;
* `Emitter.emitAll_lines_of_ok`: what a stream of constructs leaves in an output;
* `Emitter.splitOn_framed`, `Emitter.read_record`: it is cut into records, and these are read back;
* `Emitter.framed`: the statement for streams.
-/

namespace SchemaFold

/-! ### Control characters -/

/-- Characters from the space on. Line feeds and other control characters are not among them. -/
def Json.IsPlain (cs : List Char) : Prop := ∀ c ∈ cs, 0x20 ≤ c.toNat

namespace Json

instance (cs : List Char) : Decidable (IsPlain cs) := List.decidableBAll _ cs

theorem IsPlain.append {cs ds : List Char} (h : IsPlain cs) (h' : IsPlain ds) :
    IsPlain (cs ++ ds) :=
  fun c hc => (List.mem_append.mp hc).elim (h c) (h' c)

theorem IsPlain.cons {c : Char} {cs : List Char} (hc : 0x20 ≤ c.toNat) (h : IsPlain cs) :
    IsPlain (c :: cs) :=
  List.forall_mem_cons.mpr ⟨hc, h⟩

theorem IsPlain.notMem_lineFeed {cs : List Char} (h : IsPlain cs) : '\n' ∉ cs :=
  fun hc => absurd (h '\n' hc) (by decide)

theorem le_toNat_hexDigit : ∀ n, n < 16 → 0x20 ≤ (hexDigit n).toNat := by decide

/-- **A character is escaped without control characters.** -/
theorem isPlain_escape (c : Char) : IsPlain (escape c) := by
  rw [escape]
  -- the seven characters that a letter stands for come first
  iterate 7
    split
    · decide
  by_cases hcontrol : c.toNat < 0x20
  · have hhigh : 0x20 ≤ (hexDigit (c.toNat / 16)).toNat := le_toNat_hexDigit _ (by omega)
    have hlow : 0x20 ≤ (hexDigit (c.toNat % 16)).toNat := le_toNat_hexDigit _ (by omega)
    rw [if_pos hcontrol]
    have hbefore : IsPlain ['\\', 'u', '0', '0'] := by decide
    exact hbefore.append (.cons hhigh (.cons hlow (List.forall_mem_nil _)))
  · rw [if_neg hcontrol]
    exact .cons (Nat.le_of_not_lt hcontrol) (List.forall_mem_nil _)

theorem isPlain_quoted (s : String) : IsPlain (quoted s) := by
  have hinside : IsPlain (s.toList.flatMap escape) := by
    intro c hc
    obtain ⟨d, -, hd⟩ := List.mem_flatMap.mp hc
    exact isPlain_escape d c hd
  have hquote : 0x20 ≤ '"'.toNat := by decide
  exact .cons hquote (hinside.append (.cons hquote (List.forall_mem_nil _)))

end Json

open Json (IsPlain)

namespace Context

theorem isPlain_compactEntries (isFirst : Bool) (c : Context) :
    IsPlain (compactEntries isFirst c) := by
  have hnil : IsPlain [] := List.forall_mem_nil _
  have hbefore : ∀ isFirst : Bool, IsPlain (if isFirst then [] else [',']) := by
    intro isFirst
    split
    · exact hnil
    · exact .cons (by decide) hnil
  have hcolon : 0x20 ≤ ':'.toNat := by decide
  have hopen : 0x20 ≤ '\x7b'.toNat := by decide
  have hclose : 0x20 ≤ '\x7d'.toNat := by decide
  induction c generalizing isFirst with
  | empty => exact hnil
  | scalar key text rest ih =>
    have hkey := (hbefore isFirst).append (Json.isPlain_quoted key)
    exact (hkey.append (.cons hcolon (Json.isPlain_quoted text))).append (ih false)
  | nested key inner rest ihInner ih =>
    have hkey := (hbefore isFirst).append (Json.isPlain_quoted key)
    have hinner := hkey.append (.cons hcolon (.cons hopen (ihInner true)))
    exact hinner.append (.cons hclose (ih false))

/-- **A context is written without control characters**, whatever is in its keys and texts. -/
theorem isPlain_compactChars (c : Context) : IsPlain c.compactChars := by
  have hopen : 0x20 ≤ '\x7b'.toNat := by decide
  have hclose : 0x20 ≤ '\x7d'.toNat := by decide
  have hentries := isPlain_compactEntries true c
  exact .cons hopen (hentries.append (.cons hclose (List.forall_mem_nil _)))

end Context

/-! ### Outputs -/

namespace Output

variable {output : Output} {cs : List Char}

/-- Where there is room for everything, everything is written. -/
theorem write_of_unlimited (h : output.room = none) (cs : List Char) :
    output.write cs = (⟨output.written ++ cs, output.isCut, none⟩, true) := by
  obtain ⟨written, isCut, room⟩ := output
  obtain rfl : room = none := h
  cases cs with
  | nil => simp [write]
  | cons c cs => rfl

/-- What has been written if all of it fitted. -/
theorem write_of_ok (h : (output.write cs).2 = true) :
    (output.write cs).1.written = output.written ++ cs ∧
      (output.write cs).1.isCut = output.isCut := by
  induction cs generalizing output with
  | nil => exact ⟨(List.append_nil _).symm, rfl⟩
  | cons c cs ih =>
    rcases hroom : output.room with _ | bytes
    · rw [write_of_unlimited hroom]
      exact ⟨rfl, rfl⟩
    · rw [write, hroom] at h ⊢
      dsimp only at h ⊢
      by_cases hfits : c.utf8Size ≤ bytes
      · rw [if_pos hfits] at h ⊢
        obtain ⟨hwritten, hcut⟩ := ih h
        rw [hwritten, List.append_assoc]
        exact ⟨rfl, hcut⟩
      · rw [if_neg hfits] at h
        exact absurd h (by simp)

end Output

/-! ### Streams of records -/

namespace Emitter

section
variable {σ : Type} {emitter : Emitter σ} {name : String} {construct : Context} {s : σ}

/-- What comes after a construct that goes well is handed over in the state that this leaves. -/
theorem emitAll_cons_of_ok (h : (emitter.emit name construct s).2.result = .ok ())
    (rest : List (String × Context)) :
    (emitter.emitAll ((name, construct) :: rest) s).1 =
        (emitter.emitAll rest (emitter.emit name construct s).1).1 ∧
      (emitter.emitAll ((name, construct) :: rest) s).2.result =
        (emitter.emitAll rest (emitter.emit name construct s).1).2.result := by
  rw [emitAll]
  rcases hemit : emitter.emit name construct s with ⟨next, log, result⟩
  rw [hemit] at h
  obtain rfl : result = .ok () := h
  exact ⟨rfl, rfl⟩

/-- If all goes well, so does the first construct. -/
theorem emit_ok_of_emitAll_ok {rest : List (String × Context)}
    (h : (emitter.emitAll ((name, construct) :: rest) s).2.result = .ok ()) :
    (emitter.emit name construct s).2.result = .ok () := by
  rw [emitAll] at h
  rcases hemit : emitter.emit name construct s with ⟨next, log, e | _⟩
  · rw [hemit] at h
    exact absurd h (by simp)
  · rfl

end

/-- Records, each with a line feed after it. -/
def framedRecords (constructs : List (String × Context)) : List Char :=
  constructs.flatMap (fun entry => record entry.1 entry.2 ++ ['\n'])

variable {name : String} {construct : Context} {output : Output}

/-- A construct goes well just if its record fits, and then its line feed. -/
theorem emit_lines_eq_ok :
    (lines.emit name construct output).2.result = .ok () ↔
      (output.write (record name construct)).2 = true ∧
        ((output.write (record name construct)).1.write ['\n']).2 = true := by
  rw [lines]
  dsimp only
  by_cases hrecord : (output.write (record name construct)).2 = true
  · rw [if_pos hrecord]
    by_cases hend : ((output.write (record name construct)).1.write ['\n']).2 = true
    · rw [if_pos hend]
      exact ⟨fun _ => ⟨hrecord, hend⟩, fun _ => rfl⟩
    · rw [if_neg hend]
      exact ⟨fun h => absurd h (by simp [Act.fail]), fun h => absurd h.2 hend⟩
  · rw [if_neg hrecord]
    exact ⟨fun h => absurd h (by simp [Act.fail]), fun h => absurd h.1 hrecord⟩

/-- A construct that goes well leaves its record and a line feed. -/
theorem emit_lines_of_ok (h : (lines.emit name construct output).2.result = .ok ()) :
    (lines.emit name construct output).1.written =
        output.written ++ (record name construct ++ ['\n']) ∧
      (lines.emit name construct output).1.isCut = output.isCut := by
  obtain ⟨hrecord, hend⟩ := emit_lines_eq_ok.mp h
  obtain ⟨hwritten, hcut⟩ := Output.write_of_ok hrecord
  obtain ⟨hwritten', hcut'⟩ := Output.write_of_ok hend
  have hlast : (lines.emit name construct output).1 =
      ((output.write (record name construct)).1.write ['\n']).1 := by
    rw [lines]
    dsimp only
    rw [if_pos hrecord]
  rw [hlast, hwritten', hwritten, hcut', hcut, List.append_assoc]
  exact ⟨rfl, rfl⟩

/-- Where there is room for everything, a construct goes well and leaves as much room. -/
theorem emit_lines_of_unlimited (h : output.room = none) (name : String) (construct : Context) :
    (lines.emit name construct output).2.result = .ok () ∧
      (lines.emit name construct output).1.room = none := by
  rw [lines]
  dsimp only
  rw [Output.write_of_unlimited h]
  exact ⟨rfl, rfl⟩

/-- **Of a stream that goes well an output has the records with their line feeds.** -/
theorem emitAll_lines_of_ok {constructs : List (String × Context)}
    (h : (lines.emitAll constructs output).2.result = .ok ()) :
    (lines.emitAll constructs output).1.written = output.written ++ framedRecords constructs ∧
      (lines.emitAll constructs output).1.isCut = output.isCut := by
  induction constructs generalizing output with
  | nil => exact ⟨(List.append_nil _).symm, rfl⟩
  | cons entry rest ih =>
    have hfirst := emit_ok_of_emitAll_ok h
    obtain ⟨hwritten, hcut⟩ := emit_lines_of_ok hfirst
    obtain ⟨hstate, hresult⟩ := emitAll_cons_of_ok hfirst rest
    obtain ⟨hrest, hcut'⟩ := ih (hresult.symm.trans h)
    rw [hstate, hrest, hcut', hwritten, hcut, List.append_assoc]
    exact ⟨rfl, rfl⟩

/-- Where there is room for everything, a stream goes well. -/
theorem result_emitAll_lines_of_unlimited (h : output.room = none)
    (constructs : List (String × Context)) :
    (lines.emitAll constructs output).2.result = .ok () := by
  induction constructs generalizing output with
  | nil => rfl
  | cons entry rest ih =>
    obtain ⟨hok, hroom⟩ := emit_lines_of_unlimited h entry.1 entry.2
    exact (emitAll_cons_of_ok hok rest).2.trans (ih hroom)

/-! ### Cutting a stream -/

theorem lineFeed_notMem_record (name : String) (construct : Context) :
    '\n' ∉ record name construct :=
  (Context.isPlain_compactChars _).notMem_lineFeed

/-- **A stream is cut into its records**, and nothing is left after the last line feed. -/
theorem splitOn_framedRecords (constructs : List (String × Context)) :
    (framedRecords constructs).splitOn '\n' =
      constructs.map (fun entry => record entry.1 entry.2) ++ [[]] := by
  induction constructs with
  | nil => exact List.splitOn_nil '\n'
  | cons entry rest ih =>
    have hfirst : framedRecords (entry :: rest) =
        record entry.1 entry.2 ++ '\n' :: framedRecords rest := by
      rw [framedRecords, List.flatMap_cons, List.append_assoc]
      rfl
    rw [hfirst, List.splitOn_append_cons_self_of_not_mem (lineFeed_notMem_record _ _), ih]
    rfl

/-- There are as many line feeds as records. -/
theorem count_framedRecords (constructs : List (String × Context)) :
    (framedRecords constructs).count '\n' = constructs.length := by
  induction constructs with
  | nil => rfl
  | cons entry rest ih =>
    have hrecord : (record entry.1 entry.2).count '\n' = 0 :=
      List.count_eq_zero.mpr (lineFeed_notMem_record _ _)
    rw [framedRecords, List.flatMap_cons, List.count_append, List.count_append, hrecord]
    show 0 + 1 + (framedRecords rest).count '\n' = rest.length + 1
    omega

/-- **A record is read back** as an object with the name and the construct, if this is nested one
level less than a reader goes. -/
theorem read_record (name : String) (hconstruct : construct.Distinct)
    (hlevels : construct.levels ≤ 126) :
    Context.ofJson (String.ofList (record name construct)) =
      .ok (.scalar "name" name (.nested "model" construct .empty)) := by
  refine Context.read_compact (c := .scalar "name" name (.nested "model" construct .empty)) ?_ ?_
  · exact ⟨by simp [Context.keys], by simp [Context.keys], hconstruct, trivial⟩
  · show max (construct.levels + 1) 1 < 128
    omega

/-- **Constructs come one a line.** If all goes well, which it does where there is room for
everything, an output has the record of each construct with a line feed after it, and no line feeds
but these. Cut at its line feeds, it gives as many records as there are constructs and nothing after
them. Each is read back as an object of two members, the name of its construct and the construct
itself with its keys in order, unless this is nested deeper than a reader goes. -/
theorem framed (constructs : List (String × Context))
    (hdistinct : ∀ entry ∈ constructs, entry.2.Distinct) (room : Option Nat) :
    let emitted := lines.emitAll constructs ⟨[], false, room⟩
    let text := emitted.1.text.toList
    (room = none → emitted.2.result = .ok ()) ∧
      (emitted.2.result = .ok () →
        text = constructs.flatMap (fun entry => record entry.1 entry.2 ++ ['\n']) ∧
        text.count '\n' = constructs.length ∧
        ∃ records, text.splitOn '\n' = records ++ [[]] ∧
          List.Forall₂ (fun cs entry => cs = record entry.1 entry.2 ∧ '\n' ∉ cs ∧
            (entry.2.levels ≤ 126 → Context.ofJson (String.ofList cs) =
              .ok (.scalar "name" entry.1 (.nested "model" entry.2 .empty))))
            records constructs) := by
  intro emitted text
  refine ⟨fun hroom => result_emitAll_lines_of_unlimited hroom constructs, fun hok => ?_⟩
  obtain ⟨hwritten, hcut⟩ := emitAll_lines_of_ok hok
  have htext : text = framedRecords constructs := by
    show (Output.text emitted.1).toList = _
    rw [Output.text, hwritten, hcut, String.toList_ofList]
    simp
  refine ⟨htext, htext ▸ count_framedRecords constructs, _,
    htext ▸ splitOn_framedRecords constructs, ?_⟩
  rw [List.forall₂_map_left_iff, List.forall₂_same]
  intro entry hentry
  exact ⟨rfl, lineFeed_notMem_record _ _, read_record entry.1 (hdistinct entry hentry)⟩

end Emitter

namespace Sample

/-- Two constructs, whose names and contexts have line ends in them, go well and come back. -/
theorem framed_of_unwieldy :
    let constructs := [("a\nb", unwieldy "\r\n\u2028"), ("", Context.empty)]
    let emitted := Emitter.lines.emitAll constructs .unlimited
    (∀ entry ∈ constructs, entry.2.Distinct) ∧ emitted.2.result = .ok () ∧
      emitted.1.text.toList.count '\n' = 2 ∧
      ∃ first second, emitted.1.text.toList.splitOn '\n' = [first, second, []] ∧
        Context.ofJson (String.ofList first) =
          .ok (.scalar "name" "a\nb" (.nested "model" (unwieldy "\r\n\u2028") .empty)) ∧
        Context.ofJson (String.ofList second) =
          .ok (.scalar "name" "" (.nested "model" .empty .empty)) := by
  intro constructs emitted
  have hdistinct : ∀ entry ∈ constructs, entry.2.Distinct := by
    simp [constructs, unwieldy, Context.Distinct, Context.keys]
  obtain ⟨hunlimited, hframed⟩ := Emitter.framed constructs hdistinct none
  have hok : emitted.2.result = .ok () := hunlimited rfl
  obtain ⟨-, hcount, records, hsplit, hrecords⟩ := hframed hok
  refine ⟨hdistinct, hok, hcount, ?_⟩
  obtain ⟨first, _, hfirst, hrest, rfl⟩ := List.forall₂_cons_right_iff.mp hrecords
  obtain ⟨second, _, hsecond, hnone, rfl⟩ := List.forall₂_cons_right_iff.mp hrest
  obtain rfl := List.forall₂_nil_right_iff.mp hnone
  exact ⟨first, second, hsplit, hfirst.2.2 (by decide), hsecond.2.2 (by decide)⟩

end Sample

end SchemaFold
