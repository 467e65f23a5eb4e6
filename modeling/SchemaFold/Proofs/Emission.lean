import SchemaFold.Emit.Lines
import SchemaFold.Proofs.Loading
/-!
What an emitter is handed in a whole run.

* `Emitter.recorded`: an emitter that also keeps a list of its calls, each with its answer;
* `Emitter.HandsOver`: calls that hand over constructs in order, up to the first failure;
* `Emitter.emitAll_recorded`: all calls of an emitter are of this kind;
* `Config.generate_calls`: so they are in a whole run, which makes none unless the model is there.

Emitters are arbitrary machines, and so is what reads files and URLs. A call is known by being
recorded; that changes neither what the emitter does nor what the run answers.
-/

namespace SchemaFold

variable {σ : Type}

/-! ### Calls -/

/-- A call of an emitter, and whether it went well. -/
structure Emitter.Call where
  name : String
  construct : Context
  answer : Except Error Unit

namespace Emitter

/-- What a call hands over. -/
def Call.entry (call : Call) : String × Context := (call.name, call.construct)

/-- The same emitter, with a list of its calls. -/
def recorded (emitter : Emitter σ) : Emitter (σ × List Call) where
  emit name construct s :=
    let (next, act) := emitter.emit name construct s.1
    ((next, s.2 ++ [⟨name, construct, act.result⟩]), act)

/-- The calls hand over these constructs in order, up to the first failure, with this outcome. -/
inductive HandsOver : List (String × Context) → List Call → Except Error Unit → Prop
  | nil : HandsOver [] [] (.ok ())
  | failed (name : String) (construct : Context) (rest : List (String × Context)) (e : Error) :
    HandsOver ((name, construct) :: rest) [⟨name, construct, .error e⟩] (.error e)
  | cons (name : String) (construct : Context) {rest : List (String × Context)}
    {calls : List Call} {result : Except Error Unit} (h : HandsOver rest calls result) :
    HandsOver ((name, construct) :: rest) (⟨name, construct, .ok ()⟩ :: calls) result

namespace HandsOver

variable {constructs : List (String × Context)} {calls : List Call} {result : Except Error Unit}

theorem entries_prefix (h : HandsOver constructs calls result) :
    calls.map Call.entry <+: constructs := by
  induction h with
  | nil => exact List.prefix_rfl
  | failed name construct rest e => exact List.prefix_append [(name, construct)] rest
  | cons name construct _ ih => exact List.prefix_cons_inj _ |>.mpr ih

/-- Either every call goes well, and then all is handed over, or just the last one fails. -/
theorem outcome (h : HandsOver constructs calls result) :
    ((∀ call ∈ calls, call.answer = .ok ()) ∧ calls.map Call.entry = constructs ∧
      result = .ok ()) ∨
    ∃ before last e, calls = before ++ [last] ∧ (∀ call ∈ before, call.answer = .ok ()) ∧
      last.answer = .error e ∧ result = .error e := by
  induction h with
  | nil => exact Or.inl ⟨by simp, rfl, rfl⟩
  | failed name construct rest e => exact Or.inr ⟨[], _, e, rfl, by simp, rfl, rfl⟩
  | cons name construct _ ih =>
    rcases ih with ⟨hcalls, hentries, hresult⟩ | ⟨before, last, e, rfl, hbefore, hlast, hresult⟩
    · refine Or.inl ⟨List.forall_mem_cons.mpr ⟨rfl, hcalls⟩, ?_, hresult⟩
      rw [List.map_cons, hentries]
      rfl
    · exact Or.inr ⟨⟨name, construct, .ok ()⟩ :: before, last, e, rfl,
        List.forall_mem_cons.mpr ⟨rfl, hbefore⟩, hlast, hresult⟩

end HandsOver

/-- **Every emitter is handed constructs in order, up to its first failure.** -/
theorem emitAll_recorded (emitter : Emitter σ) (constructs : List (String × Context)) (s : σ)
    (before : List Call) :
    ∃ calls, emitter.recorded.emitAll constructs (s, before) =
        (((emitter.emitAll constructs s).1, before ++ calls), (emitter.emitAll constructs s).2) ∧
      HandsOver constructs calls (emitter.emitAll constructs s).2.result := by
  induction constructs generalizing s before with
  | nil =>
    refine ⟨[], ?_, .nil⟩
    rw [List.append_nil]
    rfl
  | cons entry rest ih =>
    obtain ⟨name, construct⟩ := entry
    have hrecorded : emitter.recorded.emit name construct (s, before) =
        (((emitter.emit name construct s).1,
          before ++ [⟨name, construct, (emitter.emit name construct s).2.result⟩]),
          (emitter.emit name construct s).2) := rfl
    rw [emitAll, emitAll, hrecorded]
    rcases emitter.emit name construct s with ⟨next, log, e | _⟩
    · exact ⟨[⟨name, construct, .error e⟩], rfl, .failed name construct rest e⟩
    · -- the other calls are made in the state that this one leaves
      obtain ⟨calls, hrest, hcalls⟩ := ih next (before ++ [⟨name, construct, .ok ()⟩])
      refine ⟨⟨name, construct, .ok ()⟩ :: calls, ?_, .cons name construct hcalls⟩
      simp only [hrest]
      rw [List.append_assoc, List.singleton_append]

/-- An emitter that fails at the second construct never sees the third. -/
example :
    let failing : Emitter Nat :=
      ⟨fun _ _ n => (n + 1, if n = 1 then .fail (.io "full") else .done ())⟩
    (failing.recorded.emitAll [("A", .empty), ("B", .empty), ("C", .empty)] (0, [])).1 =
      (2, [⟨"A", .empty, .ok ()⟩, ⟨"B", .empty, .error (.io "full")⟩]) := rfl

end Emitter

/-! ### Whole runs -/

namespace Config

variable {config : Config} {table : RuleTable} {read : Files.Reader} {readUrl : Url.Reader}
  {e : Error}

theorem generate_of_error (h : (config.load table read readUrl).result = .error e)
    (emitter : Emitter σ) (s : σ) :
    config.generate table read emitter s readUrl =
      (s, ⟨(config.load table read readUrl).log, .error e⟩) := by
  simp only [generate, h]

theorem generate_of_ok {model : Model} (h : (config.load table read readUrl).result = .ok model)
    (emitter : Emitter σ) (s : σ) :
    let emitted := emitter.emitAll model.constructs s
    config.generate table read emitter s readUrl =
      (emitted.1, ⟨(config.load table read readUrl).log ++ emitted.2.log,
        emitted.2.result.map (fun _ => model)⟩) := by
  simp only [generate, h]

/-- **An emitter is called for the constructs of a model, once each and in order, after the whole
model is there.** Without a model it is never called, and the run ends in the error that loading has
ended in. The calls go on up to the first failure, which is then what the run ends in; if none
fails, all constructs have been handed over and the run answers with the model. An error of the
configuration, about its source or else about its bindings, does not depend on any file. -/
theorem generate_calls (config : Config) (table : RuleTable) (read : Files.Reader)
    (readUrl : Url.Reader) (emitter : Emitter σ) (s : σ) :
    let plain := config.generate table read emitter s readUrl
    ∃ calls, config.generate table read emitter.recorded (s, []) readUrl =
        ((plain.1, calls), plain.2) ∧
      (match (config.load table read readUrl).result with
        | .error e => calls = [] ∧ plain.1 = s ∧ plain.2.result = .error e
        | .ok model =>
          model.names.Nodup ∧ calls.map Emitter.Call.entry <+: model.constructs ∧
          ((∀ call ∈ calls, call.answer = .ok ()) ∧
              calls.map Emitter.Call.entry = model.constructs ∧ plain.2.result = .ok model ∨
            ∃ before last e, calls = before ++ [last] ∧ (∀ call ∈ before, call.answer = .ok ()) ∧
              last.answer = .error e ∧ plain.2.result = .error e)) ∧
      (∀ e, config.source readUrl = .error e → plain.2.result = .error e) ∧
      ∀ source e, config.source readUrl = .ok source → config.options.result = .error e →
        plain.2.result = .error e := by
  intro plain
  have hsource : ∀ e, config.source readUrl = .error e → plain.2.result = .error e := by
    intro e h
    have hplain : plain = _ := generate_of_error (load_of_source_error h) emitter s
    rw [hplain]
  have hoptions : ∀ source e, config.source readUrl = .ok source →
      config.options.result = .error e → plain.2.result = .error e := by
    intro source e h hoptions
    have hplain : plain = _ := generate_of_error (load_of_options_error h hoptions) emitter s
    rw [hplain]
  rcases hload : (config.load table read readUrl).result with e | model
  · have hplain : plain = _ := generate_of_error hload emitter s
    refine ⟨[], ?_, ?_, hsource, hoptions⟩
    · rw [hplain, generate_of_error hload]
    · rw [hplain]
      exact ⟨rfl, rfl, rfl⟩
  · have hplain : plain = _ := generate_of_ok hload emitter s
    obtain ⟨calls, hrecorded, hcalls⟩ := emitter.emitAll_recorded model.constructs s []
    refine ⟨calls, ?_, ⟨nodup_names_of_load hload, hcalls.entries_prefix, ?_⟩, hsource, hoptions⟩
    · rw [generate_of_ok hload, hrecorded, hplain]
      rfl
    · rw [hplain]
      rcases hcalls.outcome with ⟨hall, hentries, hresult⟩ |
        ⟨before, last, e, hlist, hbefore, hlast, hresult⟩
      · refine Or.inl ⟨hall, hentries, ?_⟩
        simp only [hresult]
        rfl
      · refine Or.inr ⟨before, last, e, hlist, hbefore, hlast, ?_⟩
        simp only [hresult]
        rfl

end Config

namespace Sample

/-- A configuration that names a file, and binds the empty prefix, which is no name. -/
def misnamed : Config :=
  { Config.standard with schemaFile := some "a.xsd", namespaces := [("", "urn:x")] }

/-- An emitter that counts its calls and fails at the second one. -/
def failing : Emitter Nat :=
  ⟨fun _ _ n => (n + 1, if n = 1 then .fail (.io "full") else .done ())⟩

/-- What it is called for in a schema with three constructs. -/
def failingCalls : List Emitter.Call :=
  [⟨"A", .empty, .ok ()⟩, ⟨"b", .scalar "type" "A" .empty, .error (.io "full")⟩]

/-- Two runs that end before any file is read, as if there were none, and one that loads a schema
with three constructs, of which the last is never handed over. -/
theorem generate_calls_of_faults :
    Config.standard.source = .error (.config .noSource) ∧
      (Config.standard.generate .standard (fun _ => .error .notFound) Emitter.lines
        .unlimited).2.result = .error (.config .noSource) ∧
      misnamed.source = .ok (.file "a.xsd") ∧
      misnamed.options.result = .error (.namespaces (.invalidPrefix "")) ∧
      (misnamed.generate .standard (fun _ => .error .notFound) Emitter.lines
        .unlimited).2.result = .error (.namespaces (.invalidPrefix "")) ∧
      (stored.load .standard shelf).result = .ok declared ∧
      declared.names = ["A", "b", "c:"] ∧ declared.names.Nodup ∧
      (stored.generate .standard shelf failing.recorded (0, [])).1 = (2, failingCalls) ∧
      failingCalls.map Emitter.Call.entry <+: declared.constructs ∧
      (stored.generate .standard shelf failing 0).2.result = .error (.io "full") := by
  have hsource : Config.standard.source = .error (.config .noSource) := rfl
  have hfile : misnamed.source = .ok (.file "a.xsd") := rfl
  have hprefix : misnamed.options.result = .error (.namespaces (.invalidPrefix "")) := rfl
  obtain ⟨_, -, -, hwithout, -⟩ := Config.standard.generate_calls .standard
    (fun _ => .error .notFound) Url.parse Emitter.lines .unlimited
  obtain ⟨_, -, -, -, hmisnamed⟩ := misnamed.generate_calls .standard
    (fun _ => .error .notFound) Url.parse Emitter.lines .unlimited
  -- the calls of the third run are found by running the emitter on the model
  have hrun : (stored.generate .standard shelf failing.recorded (0, [])).1 = (2, failingCalls) := by
    rw [Config.generate_of_ok load_stored]
    rfl
  have hstored := stored.generate_calls .standard shelf Url.parse failing 0
  simp only [load_stored] at hstored
  obtain ⟨calls, hrecorded, ⟨hnodup, hentries, houtcome⟩, -, -⟩ := hstored
  obtain rfl : failingCalls = calls := by
    rw [hrecorded] at hrun
    exact (congrArg Prod.snd hrun).symm
  refine ⟨hsource, hwithout _ hsource, hfile, hprefix, hmisnamed _ _ hfile hprefix, load_stored,
    rfl, hnodup, hrun, hentries, ?_⟩
  rcases houtcome with ⟨hall, -⟩ | ⟨before, last, e, hcalls, -, hlast, hresult⟩
  · exact nomatch hall _ (List.mem_cons_of_mem _ List.mem_cons_self)
  · -- the last of the two calls is the one that fails
    have hsecond : some last = failingCalls.getLast? := by rw [hcalls, List.getLast?_concat]
    cases hsecond
    cases hlast
    exact hresult

end Sample

end SchemaFold
