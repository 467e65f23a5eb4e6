import SchemaFold.Fold
/-!
Runs one after the other.

* `Run.andThen_of_ok`, `Run.andThen_of_error`: the second run starts where the first ends, if this
  does not end in an error;
* `Run.andThen_assoc`, `Run.done_andThen`, `Run.andThen_done`: the order of runs is all that counts;
* `Run.result_andThen_eq_ok`: both of two runs have to come to their end;
* `Run.Agree`: two runs that differ at most in what they report;
* `Act.result_bind_of_ok`, `Act.result_bind_of_error`: the same for computations that answer.
-/

namespace SchemaFold.Run

variable {run : Run} {next : Context → Run} {c : Context} {e : Error}

theorem andThen_of_ok (h : run.result = .ok ()) (next : Context → Run) :
    run.andThen next =
      ⟨(next run.context).context, run.log ++ (next run.context).log,
        (next run.context).result⟩ := by
  rw [andThen, h]

theorem andThen_of_error (h : run.result = .error e) (next : Context → Run) :
    run.andThen next = run := by
  rw [andThen, h]

@[simp] theorem done_andThen (c : Context) (next : Context → Run) :
    (done c).andThen next = next c := rfl

@[simp] theorem fail_andThen (c : Context) (e : Error) (next : Context → Run) :
    (fail c e).andThen next = fail c e := rfl

theorem report_andThen (events : List Event) (c : Context) (next : Context → Run) :
    (report events c).andThen next =
      ⟨(next c).context, events ++ (next c).log, (next c).result⟩ := rfl

@[simp] theorem andThen_done (run : Run) : run.andThen done = run := by
  rcases h : run.result with e | _
  · exact andThen_of_error h done
  · rw [andThen_of_ok h]
    show (⟨run.context, run.log ++ [], .ok ()⟩ : Run) = run
    rw [List.append_nil, ← h]

theorem andThen_assoc (run : Run) (next last : Context → Run) :
    (run.andThen next).andThen last = run.andThen (fun c => (next c).andThen last) := by
  rcases h : run.result with e | _
  · rw [andThen_of_error h, andThen_of_error h, andThen_of_error h]
  · rw [andThen_of_ok h, andThen_of_ok h]
    rcases hnext : (next run.context).result with e | _
    · rw [andThen_of_error hnext, andThen_of_error rfl, hnext]
    · rw [andThen_of_ok hnext, andThen_of_ok rfl, List.append_assoc]

theorem result_andThen_eq_ok :
    (run.andThen next).result = .ok () ↔
      run.result = .ok () ∧ (next run.context).result = .ok () := by
  rcases h : run.result with e | _
  · rw [andThen_of_error h, h]
    simp
  · rw [andThen_of_ok h]
    simp

/-- An event of two runs is one of the first or of the second. -/
theorem mem_log_andThen {event : Event} (h : event ∈ (run.andThen next).log) :
    event ∈ run.log ∨ event ∈ (next run.context).log := by
  rcases hrun : run.result with e | _
  · rw [andThen_of_error hrun] at h
    exact Or.inl h
  · rw [andThen_of_ok hrun] at h
    exact List.mem_append.mp h

/-- An error of two runs is that of the first or of the second. -/
theorem error_andThen (h : (run.andThen next).result = .error e) :
    run.result = .error e ∨ (next run.context).result = .error e := by
  rcases hrun : run.result with e' | _
  · rw [andThen_of_error hrun, hrun] at h
    exact Or.inl h
  · rw [andThen_of_ok hrun] at h
    exact Or.inr h

/-- A second run that comes after a first one may be exchanged where the first one ends. -/
theorem andThen_congr {other : Context → Run}
    (h : run.result = .ok () → next run.context = other run.context) :
    run.andThen next = run.andThen other := by
  rcases hrun : run.result with e | _
  · rw [andThen_of_error hrun, andThen_of_error hrun]
  · rw [andThen_of_ok hrun, andThen_of_ok hrun, h hrun]

/-! ### What is left apart from the log -/

/-- Two runs leave the same context and end in the same way, whatever they report. -/
structure Agree (left right : Run) : Prop where
  context : left.context = right.context
  result : left.result = right.result

theorem Agree.refl (run : Run) : run.Agree run := ⟨rfl, rfl⟩

theorem Agree.symm {left right : Run} (h : left.Agree right) : right.Agree left :=
  ⟨h.context.symm, h.result.symm⟩

theorem Agree.trans {left middle right : Run} (h : left.Agree middle) (h' : middle.Agree right) :
    left.Agree right :=
  ⟨h.context.trans h'.context, h.result.trans h'.result⟩

theorem Agree.andThen {left right : Run} {nextLeft nextRight : Context → Run}
    (h : left.Agree right) (hnext : ∀ c, (nextLeft c).Agree (nextRight c)) :
    (left.andThen nextLeft).Agree (right.andThen nextRight) := by
  obtain ⟨hcontext, hresult⟩ := h
  rcases hleft : left.result with e | _
  · rw [andThen_of_error hleft, andThen_of_error (hresult ▸ hleft)]
    exact ⟨hcontext, hresult⟩
  · rw [andThen_of_ok hleft, andThen_of_ok (hresult ▸ hleft), hcontext]
    exact ⟨(hnext right.context).context, (hnext right.context).result⟩

end SchemaFold.Run

/-- A change of errors changes no answer. -/
theorem SchemaFold.mapError_eq_ok_iff {ε ε' α : Type} {result : Except ε α} {f : ε → ε'} {a : α} :
    result.mapError f = .ok a ↔ result = .ok a := by
  cases result with
  | error e => exact iff_of_false nofun nofun
  | ok b =>
    show Except.ok b = Except.ok a ↔ Except.ok b = Except.ok a
    rw [Except.ok.injEq, Except.ok.injEq]

namespace SchemaFold.Act

variable {α β : Type} {first : Act α} {second : α → Act β} {e : Error}

theorem result_bind_of_ok {a : α} (h : first.result = .ok a) :
    (first >>= second).result = (second a).result := by
  show (first.andThen second).result = _
  rw [andThen, h]

theorem result_bind_of_error (h : first.result = .error e) :
    (first >>= second).result = .error e := by
  show (first.andThen second).result = _
  rw [andThen, h]

end SchemaFold.Act
