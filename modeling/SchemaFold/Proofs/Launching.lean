import SchemaFold.Emit.Command
import SchemaFold.Proofs.Emission
import SchemaFold.Proofs.Name.Syntax
/-!
Which programs are run in a whole run, and with which arguments.

* `Name.IsQualified`, `Name.isQName_iff_isQualified`: one plain name, or two with a colon between;
* `Name.IsHarmless`: what such a name cannot be mistaken for;
* `Launcher.recorded`: a launcher that also keeps a list of its starts, each with its end;
* `Emitter.Launches`: starts for names in order, up to the first that is none or has no success;
* `Emitter.emitAll_command_recorded`: all starts that are made for constructs are of this kind;
* `Config.generate_starts`: so they are in a whole run, which makes none unless the model is there.

Nothing checks the names of constructs while a schema is folded. So what reaches a program is
decided here, right before the program is run.
-/

namespace SchemaFold

/-! ### Names -/

namespace Name

variable {name : String} {c : Char}

/-- One plain name, or two of them with a colon between. -/
def IsQualified (name : String) : Prop :=
  isNCName name = true ∨
    ∃ pfx localName, name = pfx ++ ":" ++ localName ∧ isNCName pfx = true ∧
      isNCName localName = true

theorem isQName_iff_isQualified : isQName name = true ↔ IsQualified name := by
  constructor
  · intro h
    rcases hparts : splitQName name with ⟨_ | pfx, localName⟩
    · rw [isQName_iff hparts] at h
      obtain ⟨rfl, -⟩ := splitQName_eq_none_iff.mp hparts
      exact Or.inl h.2
    · rw [isQName_iff hparts] at h
      obtain ⟨hname, -⟩ := splitQName_eq_some_iff.mp hparts
      refine Or.inr ⟨pfx, localName, ?_, h.1 pfx rfl, h.2⟩
      rw [← String.toList_inj, hname]
      simp
  · rintro (h | ⟨pfx, localName, rfl, hpfx, hlocal⟩)
    · rw [isQName_iff (splitQName_of_isNCName h)]
      exact ⟨by simp, h⟩
    · rw [isQName_iff (splitQName_join hpfx localName)]
      refine ⟨?_, hlocal⟩
      rintro _ ⟨⟩
      exact hpfx

/-- Control characters, as ranges of code points. -/
def controlRanges : List (Nat × Nat) := [(0x00, 0x1F), (0x7F, 0x9F)]

/-- The characters that shells and programs give a meaning of their own: quotes, slashes and the
equals sign, as ranges of code points. -/
def quotingRanges : List (Nat × Nat) :=
  [(0x22, 0x22), (0x27, 0x27), (0x2F, 0x2F), (0x3D, 0x3D), (0x5C, 0x5C), (0x60, 0x60),
   (0xAB, 0xAB), (0xBB, 0xBB), (0x2018, 0x201F), (0x2039, 0x203A)]

/-- A name that cannot be mistaken for an option, a path, an assignment or several arguments. -/
structure IsHarmless (name : String) : Prop where
  /-- It is one name or two. -/
  qualified : IsQualified name
  colon : name.toList.count ':' ≤ 1
  /-- It begins with a letter or an underscore, and so not with a hyphen. -/
  head : ∃ c cs, name.toList = c :: cs ∧ (Text.isLetter c = true ∨ c = '_') ∧ c ≠ '-'
  space : ∀ c ∈ name.toList, Text.isSpace c = false
  control : ∀ c ∈ name.toList, Text.inRanges controlRanges c = false
  quoting : ∀ c ∈ name.toList, Text.inRanges quotingRanges c = false

/-- A name has plain names' characters, and perhaps a colon. -/
theorem IsQualified.isRest_or_eq (h : IsQualified name) :
    ∀ c ∈ name.toList, isRest c = true ∨ c = ':' := by
  intro c hc
  rcases h with h | ⟨pfx, localName, rfl, hpfx, hlocal⟩
  · exact Or.inl (isRest_of_isNCName h c hc)
  · rw [String.toList_append, String.toList_append, List.mem_append, List.mem_append] at hc
    rcases hc with (hc | hc) | hc
    · exact Or.inl (isRest_of_isNCName hpfx c hc)
    · exact Or.inr (List.mem_singleton.mp hc)
    · exact Or.inl (isRest_of_isNCName hlocal c hc)

theorem IsQualified.count_colon (h : IsQualified name) : name.toList.count ':' ≤ 1 := by
  have hplain : ∀ {part : String}, isNCName part = true → part.toList.count ':' = 0 := by
    intro part hpart
    exact List.count_eq_zero_of_not_mem (notMem_of_isNCName hpart (by decide))
  rcases h with h | ⟨pfx, localName, rfl, hpfx, hlocal⟩
  · rw [hplain h]
    exact Nat.zero_le 1
  · rw [String.toList_append, String.toList_append, List.count_append, List.count_append,
      hplain hpfx, hplain hlocal]
    decide

theorem IsQualified.exists_head (h : IsQualified name) :
    ∃ c cs, name.toList = c :: cs ∧ isStart c = true := by
  rcases h with h | ⟨pfx, localName, rfl, hpfx, -⟩
  · obtain ⟨c, cs, hname, hc, -⟩ := exists_cons_of_isNCName h
    exact ⟨c, cs, hname, hc⟩
  · obtain ⟨c, cs, hname, hc, -⟩ := exists_cons_of_isNCName hpfx
    refine ⟨c, cs ++ (":" ++ localName).toList, ?_, hc⟩
    rw [String.append_assoc, String.toList_append, hname, List.cons_append]

/-- A hyphen does not begin a plain name, though it may continue one. -/
theorem isStart_hyphen : isStart '-' = false := by decide +kernel

/-- No control character and no quoting one is part of a plain name. -/
theorem isRest_of_control_or_quoting (h : Text.inRanges (controlRanges ++ quotingRanges) c = true) :
    isRest c = false :=
  isRest_of_areApart (by decide +kernel) (by decide) h

/-- **Qualified names are harmless.** -/
theorem IsQualified.isHarmless (h : IsQualified name) : IsHarmless name := by
  -- what is not part of a plain name is not in a qualified one either, unless it is the colon
  have houter : ∀ c ∈ name.toList, Text.inRanges (controlRanges ++ quotingRanges) c = false := by
    intro c hc
    refine Bool.eq_false_iff.mpr fun hranges => ?_
    rcases h.isRest_or_eq c hc with hrest | rfl
    · rw [isRest_of_control_or_quoting hranges] at hrest
      exact absurd hrest (by decide)
    · exact absurd hranges (by decide)
  simp only [Text.inRanges, List.any_append, Bool.or_eq_false_iff] at houter
  obtain ⟨c, cs, hname, hc⟩ := h.exists_head
  have hhyphen : c ≠ '-' := by
    rintro rfl
    rw [isStart_hyphen] at hc
    exact absurd hc (by decide)
  rw [isStart, Bool.or_eq_true, beq_iff_eq] at hc
  refine ⟨h, h.count_colon, ⟨c, cs, hname, hc, hhyphen⟩, fun c hc => ?_,
    fun c hc => (houter c hc).1, fun c hc => (houter c hc).2⟩
  rcases h.isRest_or_eq c hc with hrest | rfl
  · exact isSpace_eq_false hrest
  · decide

end Name

/-! ### Starts -/

/-- A start of a program, and how the program has ended. -/
structure Launcher.Start where
  program : String
  arguments : List String
  ended : Except Files.Fault ExitStatus

/-- What is started. -/
def Launcher.Start.command (start : Launcher.Start) : String × List String :=
  (start.program, start.arguments)

/-- The program has come to its end, with the status for success. -/
def Launcher.Start.IsSuccess (start : Launcher.Start) : Prop := start.ended = .ok (.code 0)

variable {σ : Type}

/-- The same launcher, with a list of its starts. -/
def Launcher.recorded (launch : Launcher σ) : Launcher (σ × List Launcher.Start) :=
  fun program arguments s =>
    let (next, ended) := launch program arguments s.1
    ((next, s.2 ++ [⟨program, arguments, ended⟩]), ended)

namespace Emitter

open Launcher (Start)

variable {program : String} {arguments names : List String} {starts : List Start}
  {result : Except Error Unit} {ended : Except Files.Fault ExitStatus}

/-- Any end but success is an error of the emitter. -/
theorem outcome_of_ne (h : ended ≠ .ok (.code 0)) (program name : String) :
    ∃ fault, outcome program name ended = .error (.emit fault) := by
  rcases ended with fault | status
  · exact ⟨_, rfl⟩
  · rw [outcome, if_neg fun hstatus => h (congrArg _ hstatus)]
    exact ⟨_, rfl⟩

/-- A program is started for names in order, with the name as its last argument, up to the first
that is not a qualified name or for which it has no success. -/
inductive Launches (program : String) (arguments : List String) :
    List String → List Start → Except Error Unit → Prop
  | nil : Launches program arguments [] [] (.ok ())
  | refused (name : String) (rest : List String) (h : ¬ Name.IsQualified name) :
    Launches program arguments (name :: rest) [] (.error (.namespaces (.invalidQName name)))
  | failed (name : String) (rest : List String) (h : Name.IsQualified name)
    (ended : Except Files.Fault ExitStatus) (fault : EmitFault) (hended : ended ≠ .ok (.code 0))
    (hfault : outcome program name ended = .error (.emit fault)) :
    Launches program arguments (name :: rest) [⟨program, arguments ++ [name], ended⟩]
      (.error (.emit fault))
  | cons (name : String) (h : Name.IsQualified name) {rest : List String} {starts : List Start}
    {result : Except Error Unit} (hrest : Launches program arguments rest starts result) :
    Launches program arguments (name :: rest)
      (⟨program, arguments ++ [name], .ok (.code 0)⟩ :: starts) result

namespace Launches

/-- The names that a program is started for come first, and are qualified. -/
theorem exists_used (h : Launches program arguments names starts result) :
    ∃ used rest, names = used ++ rest ∧ (∀ name ∈ used, Name.IsQualified name) ∧
      starts.map Start.command = used.map (fun name => (program, arguments ++ [name])) ∧
      -- all names are used, or the next one is not qualified, or the last start had no success
      ((rest = [] ∧ (∀ start ∈ starts, start.IsSuccess) ∧ result = .ok ()) ∨
        (∃ bad more, rest = bad :: more ∧ ¬ Name.IsQualified bad ∧
          (∀ start ∈ starts, start.IsSuccess) ∧
          result = .error (.namespaces (.invalidQName bad))) ∨
        ∃ before last fault, starts = before ++ [last] ∧ (∀ start ∈ before, start.IsSuccess) ∧
          ¬ last.IsSuccess ∧ result = .error (.emit fault)) := by
  induction h with
  | nil => exact ⟨[], [], rfl, by simp, rfl, Or.inl ⟨rfl, by simp, rfl⟩⟩
  | refused name rest h =>
    exact ⟨[], name :: rest, rfl, by simp, rfl, Or.inr (Or.inl ⟨name, rest, rfl, h, by simp, rfl⟩)⟩
  | failed name rest h ended fault hended =>
    exact ⟨[name], rest, rfl, by simpa using h, rfl,
      Or.inr (Or.inr ⟨[], _, fault, rfl, by simp, hended, rfl⟩)⟩
  | cons name h _ ih =>
    obtain ⟨used, rest, rfl, hused, hstarts, hend⟩ := ih
    refine ⟨name :: used, rest, rfl, List.forall_mem_cons.mpr ⟨h, hused⟩, ?_, ?_⟩
    · rw [List.map_cons, List.map_cons, hstarts]
      rfl
    · -- one more success in front changes nothing
      rcases hend with ⟨hrest, hall, hresult⟩ | ⟨bad, more, hrest, hbad, hall, hresult⟩ |
        ⟨before, last, fault, rfl, hbefore, hlast, hresult⟩
      · exact Or.inl ⟨hrest, List.forall_mem_cons.mpr ⟨rfl, hall⟩, hresult⟩
      · exact Or.inr (Or.inl
          ⟨bad, more, hrest, hbad, List.forall_mem_cons.mpr ⟨rfl, hall⟩, hresult⟩)
      · exact Or.inr (Or.inr ⟨_ :: before, last, fault, rfl,
          List.forall_mem_cons.mpr ⟨rfl, hbefore⟩, hlast, hresult⟩)

/-- All goes well just if all names are qualified and each start is a success. -/
theorem result_eq_ok_iff (h : Launches program arguments names starts result) :
    result = .ok () ↔
      (∀ name ∈ names, Name.IsQualified name) ∧ ∀ start ∈ starts, start.IsSuccess := by
  induction h with
  | nil => simp
  | refused name rest h => simp [h]
  | failed name rest h ended fault hended => simp [Start.IsSuccess, hended]
  | cons name h _ ih =>
    rw [ih, List.forall_mem_cons, List.forall_mem_cons]
    simp [Start.IsSuccess, h]

end Launches

section Command

variable (launch : Launcher σ) (program : String) (arguments : List String)

theorem command_emit_of_isQualified {name : String} (h : Name.IsQualified name)
    (construct : Context) (s : σ) :
    let started := launch program (arguments ++ [name]) s
    (command launch program arguments).emit name construct s =
      (started.1, ⟨[.running program name], outcome program name started.2⟩) := by
  have hvalid : Name.validate name = .ok () := if_pos (Name.isQName_iff_isQualified.mpr h)
  simp only [command, hvalid]

theorem command_emit_of_not {name : String} (h : ¬ Name.IsQualified name) (construct : Context)
    (s : σ) :
    (command launch program arguments).emit name construct s =
      (s, .fail (.namespaces (.invalidQName name))) := by
  have hvalid : Name.validate name = .error (.invalidQName name) :=
    if_neg (mt Name.isQName_iff_isQualified.mp h)
  simp only [command, hvalid]

/-- **Programs are started for the names of constructs in order, up to the first that is not
qualified or has no success.** By induction on the constructs: each start is made in the state that
the one before it leaves. -/
theorem emitAll_command_recorded (constructs : List (String × Context)) (s : σ)
    (before : List Start) :
    ∃ starts, (command launch.recorded program arguments).emitAll constructs (s, before) =
        ((((command launch program arguments).emitAll constructs s).1, before ++ starts),
          ((command launch program arguments).emitAll constructs s).2) ∧
      Launches program arguments (constructs.map (·.1)) starts
        ((command launch program arguments).emitAll constructs s).2.result := by
  induction constructs generalizing s before with
  | nil =>
    refine ⟨[], ?_, .nil⟩
    rw [List.append_nil]
    rfl
  | cons entry rest ih =>
    obtain ⟨name, construct⟩ := entry
    rw [emitAll, emitAll]
    by_cases hname : Name.IsQualified name
    · have hrecorded : launch.recorded program (arguments ++ [name]) (s, before) =
          (((launch program (arguments ++ [name]) s).1,
            before ++ [⟨program, arguments ++ [name], (launch program (arguments ++ [name]) s).2⟩]),
            (launch program (arguments ++ [name]) s).2) := rfl
      rw [command_emit_of_isQualified _ _ _ hname, command_emit_of_isQualified _ _ _ hname,
        hrecorded]
      rcases launch program (arguments ++ [name]) s with ⟨next, ended⟩
      by_cases hended : ended = .ok (.code 0)
      · obtain ⟨starts, hrest, hstarts⟩ :=
          ih next (before ++ [⟨program, arguments ++ [name], .ok (.code 0)⟩])
        subst hended
        refine ⟨⟨program, arguments ++ [name], .ok (.code 0)⟩ :: starts, ?_,
          .cons name hname hstarts⟩
        simp only [outcome, hrest]
        rw [List.append_assoc, List.singleton_append]
        rfl
      · obtain ⟨fault, hfault⟩ := outcome_of_ne hended program name
        refine ⟨[⟨program, arguments ++ [name], ended⟩], ?_, ?_⟩
        · simp only [hfault]
        · simp only [hfault]
          exact .failed name _ hname ended fault hended hfault
    · rw [command_emit_of_not _ _ _ hname, command_emit_of_not _ _ _ hname]
      refine ⟨[], ?_, .refused name _ hname⟩
      rw [List.append_nil]
      rfl

end Command

/-- A name that ends with a colon ends the starts before the program is run for it. -/
example :
    let launch : Launcher Nat := fun _ _ n => (n + 1, .ok (.code 0))
    let emitted := (command launch.recorded "gen" ["-v"]).emitAll
      [("a", .empty), ("b:", .empty), ("d", .empty)] (0, [])
    emitted.1 = (1, [⟨"gen", ["-v", "a"], .ok (.code 0)⟩]) ∧
      emitted.2.result = .error (.namespaces (.invalidQName "b:")) := ⟨rfl, rfl⟩

end Emitter

/-! ### Whole runs -/

namespace Config

open Launcher (Start)

/-- **Only qualified names reach a program, and these in order and once each.** Without a model no
program is started. With one, each start has the fixed arguments and then the name of a construct,
which is harmless. The names are those of the first constructs: all of them, or those before the
first name that is not qualified, or those up to the first that the program is started for without
success. So the run answers with the model just if there is no such name; else it ends in an error
for it. -/
theorem generate_starts (config : Config) (table : RuleTable) (read : Files.Reader)
    (readUrl : Url.Reader) (launch : Launcher σ) (program : String) (arguments : List String)
    (s : σ) :
    let plain := config.generate table read (Emitter.command launch program arguments) s readUrl
    ∃ starts,
      config.generate table read (Emitter.command launch.recorded program arguments) (s, [])
        readUrl = ((plain.1, starts), plain.2) ∧
      match (config.load table read readUrl).result with
      | .error e => starts = [] ∧ plain.2.result = .error e
      | .ok model =>
        model.names.Nodup ∧
        (∃ used rest, model.names = used ++ rest ∧ (∀ name ∈ used, Name.IsHarmless name) ∧
          starts.map Start.command = used.map (fun name => (program, arguments ++ [name])) ∧
          ((rest = [] ∧ (∀ start ∈ starts, start.IsSuccess) ∧ plain.2.result = .ok model) ∨
            (∃ bad more, rest = bad :: more ∧ ¬ Name.IsQualified bad ∧
              (∀ start ∈ starts, start.IsSuccess) ∧
              plain.2.result = .error (.namespaces (.invalidQName bad))) ∨
            ∃ before last fault, starts = before ++ [last] ∧ (∀ start ∈ before, start.IsSuccess) ∧
              ¬ last.IsSuccess ∧ plain.2.result = .error (.emit fault))) ∧
        (plain.2.result = .ok model ↔
          (∀ name ∈ model.names, Name.IsQualified name) ∧ ∀ start ∈ starts, start.IsSuccess) := by
  intro plain
  rcases hload : (config.load table read readUrl).result with e | model
  · have hplain : plain = _ := generate_of_error hload (Emitter.command launch program arguments) s
    refine ⟨[], ?_, rfl, ?_⟩
    · rw [generate_of_error hload, hplain]
    · rw [hplain]
  · have hplain : plain = _ := generate_of_ok hload (Emitter.command launch program arguments) s
    obtain ⟨starts, hrecorded, hstarts⟩ :=
      Emitter.emitAll_command_recorded launch program arguments model.constructs s []
    have hresult : plain.2.result = Except.map (fun _ => model)
        ((Emitter.command launch program arguments).emitAll model.constructs s).2.result := by
      rw [hplain]
    refine ⟨starts, ?_, nodup_names_of_load hload, ?_, ?_⟩
    · rw [generate_of_ok hload, hrecorded, hplain]
      rfl
    · obtain ⟨used, rest, hnames, hused, hcommands, hend⟩ := hstarts.exists_used
      refine ⟨used, rest, hnames, fun name hname => (hused name hname).isHarmless, hcommands, ?_⟩
      rw [hresult]
      rcases hend with ⟨hrest, hall, hended⟩ | ⟨bad, more, hrest, hbad, hall, hended⟩ |
        ⟨before, last, fault, hsplit, hbefore, hlast, hended⟩
      · exact Or.inl ⟨hrest, hall, by rw [hended]; rfl⟩
      · exact Or.inr (Or.inl ⟨bad, more, hrest, hbad, hall, by rw [hended]; rfl⟩)
      · exact Or.inr (Or.inr ⟨before, last, fault, hsplit, hbefore, hlast, by rw [hended]; rfl⟩)
    · rw [hresult]
      refine Iff.trans ?_ hstarts.result_eq_ok_iff
      rcases ((Emitter.command launch program arguments).emitAll model.constructs s).2.result with
        e | _
      · exact ⟨nofun, nofun⟩
      · exact ⟨fun _ => rfl, fun _ => rfl⟩

end Config

namespace Sample

/-- The starts of a program for the first two constructs of a schema, with the end of the second. -/
def twoStarts (second : ExitStatus) : List Launcher.Start :=
  [⟨"gen", ["-v", "A"], .ok (.code 0)⟩, ⟨"gen", ["-v", "b"], .ok second⟩]

/-- The names that they are made for come first in the model, and one is left. -/
theorem used_of_twoStarts {second : ExitStatus} {used rest : List String}
    (hnames : declared.names = used ++ rest)
    (hcommands : (twoStarts second).map Launcher.Start.command =
      used.map (fun name => ("gen", ["-v"] ++ [name]))) : used = ["A", "b"] ∧ rest = ["c:"] := by
  have hlength : ["A", "b"].length = used.length := by
    simpa [twoStarts] using congrArg List.length hcommands
  have hsplit : ["A", "b"] ++ ["c:"] = used ++ rest := hnames
  obtain ⟨rfl, rfl⟩ := List.append_inj hsplit hlength
  exact ⟨rfl, rfl⟩

/-- A program that always has success is run for two constructs of a schema, but not for the third,
whose name ends with a colon. One that has no success the second time does not come that far. -/
theorem generate_starts_of_declarations :
    let working : Launcher Nat := fun _ _ n => (n + 1, .ok (.code 0))
    let stopping : Launcher Nat := fun _ _ n => (n + 1, .ok (.code n))
    (stored.load .standard shelf).result = .ok declared ∧
      declared.names = ["A", "b", "c:"] ∧
      (∀ name ∈ ["A", "b"], Name.IsHarmless name) ∧ ¬ Name.IsQualified "c:" ∧
      (stored.generate .standard shelf (Emitter.command working.recorded "gen" ["-v"])
        (0, [])).1 = (2, twoStarts (.code 0)) ∧
      (stored.generate .standard shelf (Emitter.command working "gen" ["-v"]) 0).2.result =
        .error (.namespaces (.invalidQName "c:")) ∧
      (stored.generate .standard shelf (Emitter.command stopping.recorded "gen" ["-v"])
        (0, [])).1 = (2, twoStarts (.code 1)) ∧
      ∃ fault, (stored.generate .standard shelf (Emitter.command stopping "gen" ["-v"])
        0).2.result = .error (.emit fault) := by
  intro working stopping
  -- the starts are found by running the program for the names in the model
  have hworking : (stored.generate .standard shelf
      (Emitter.command working.recorded "gen" ["-v"]) (0, [])).1 = (2, twoStarts (.code 0)) := by
    rw [Config.generate_of_ok load_stored]
    rfl
  have hstopping : (stored.generate .standard shelf
      (Emitter.command stopping.recorded "gen" ["-v"]) (0, [])).1 = (2, twoStarts (.code 1)) := by
    rw [Config.generate_of_ok load_stored]
    rfl
  have hfirst := stored.generate_starts .standard shelf Url.parse working "gen" ["-v"] 0
  have hsecond := stored.generate_starts .standard shelf Url.parse stopping "gen" ["-v"] 0
  simp only [load_stored] at hfirst hsecond
  obtain ⟨starts, hrecorded, -, ⟨used, rest, hsplit, hused, hcommands, hend⟩, -⟩ := hfirst
  obtain ⟨starts', hrecorded', -, ⟨used', rest', hsplit', -, hcommands', hend'⟩, -⟩ := hsecond
  obtain rfl : twoStarts (.code 0) = starts := by
    rw [hrecorded] at hworking
    exact (congrArg Prod.snd hworking).symm
  obtain rfl : twoStarts (.code 1) = starts' := by
    rw [hrecorded'] at hstopping
    exact (congrArg Prod.snd hstopping).symm
  obtain ⟨rfl, rfl⟩ := used_of_twoStarts hsplit hcommands
  obtain ⟨rfl, rfl⟩ := used_of_twoStarts hsplit' hcommands'
  have hsuccess : ∀ start ∈ twoStarts (.code 0), start.IsSuccess := by
    simp [twoStarts, Launcher.Start.IsSuccess]
  have hfailure : ¬ ∀ start ∈ twoStarts (.code 1), start.IsSuccess := by
    simp [twoStarts, Launcher.Start.IsSuccess]
  -- with a name left over and no failure it is the name that has ended the first run
  have hrefused : ¬ Name.IsQualified "c:" ∧
      (stored.generate .standard shelf (Emitter.command working "gen" ["-v"]) 0).2.result =
        .error (.namespaces (.invalidQName "c:")) := by
    rcases hend with ⟨hrest, -⟩ | ⟨bad, more, hrest, hbad, -, hresult⟩ |
      ⟨before, last, _, hstarts, -, hlast, -⟩
    · exact absurd hrest (by simp)
    · cases hrest
      exact ⟨hbad, hresult⟩
    · rw [hstarts] at hsuccess
      exact absurd (hsuccess last List.mem_concat_self) hlast
  refine ⟨load_stored, rfl, hused, hrefused.1, hworking, hrefused.2, hstopping, ?_⟩
  rcases hend' with ⟨hrest, -⟩ | ⟨_, _, -, -, hall, -⟩ | ⟨_, _, fault, -, -, -, hresult⟩
  · exact absurd hrest (by simp)
  · exact absurd hall hfailure
  · exact ⟨fault, hresult⟩

end Sample

end SchemaFold
