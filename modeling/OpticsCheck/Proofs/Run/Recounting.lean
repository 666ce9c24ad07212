import OpticsCheck.Proofs.Report.Notes
import OpticsCheck.Proofs.Run.Stretch

/-!
# Procedures that recount a run

A check queries a device and notes what it finds. The queries alone are a run of their own, in which
a fault is one more thing that can come of them. A procedure recounts such a run when it makes the
same calls from wherever it starts, and its result and its report are an account of what comes of
the run. So what a check reports can be said of the answers to its queries, in the order in which it
makes them.
-/

namespace OpticsCheck

namespace Run

variable {σ α β : Type}

/-- Proceeds with what the run answers. A fault is the end of it. -/
def proceed (run : Run σ (Except Fault α)) (failed : Fault → β) (next : α → Run σ β) :
    Run σ β := do
  match ← run with
  | .ok value => next value
  | .error fault => return failed fault

section Proceed

variable {run : Run σ (Except Fault α)} (failed : Fault → β) (next : α → Run σ β) {clock : Nat}
  {state : σ}

theorem value_proceed_of_ok {value : α} (ok : (run clock state).value = .ok value) :
    (run.proceed failed next clock state).value =
      (next value (run clock state).clock (run clock state).state).value := by
  simp only [proceed, value_bind, ok]

theorem value_proceed_of_error {fault : Fault} (error : (run clock state).value = .error fault) :
    (run.proceed failed next clock state).value = failed fault := by
  simp only [proceed, value_bind, error]
  rfl

end Proceed

theorem calls_bind (first : Run σ α) (next : α → Run σ β) (clock : Nat) (state : σ) :
    ((first >>= next) clock state).calls = (first clock state).calls ++
      (next (first clock state).value (first clock state).clock (first clock state).state).calls :=
  List.filterMap_append

theorem calls_map (f : α → β) (run : Run σ α) (clock : Nat) (state : σ) :
    ((f <$> run) clock state).calls = (run clock state).calls :=
  congrArg (List.filterMap Mark.call?) (trace_map clock state f run)

theorem calls_call (name : Call) (query : Query σ α) (clock : Nat) (state : σ) :
    (Run.call name query clock state).calls = [name] := by
  have silent : (query clock state).log.filterMap (Mark.call? ∘ Mark.logged) = [] :=
    List.filterMap_eq_nil_iff.mpr fun _ _ => rfl
  simp [call, Outcome.calls, Mark.call?, silent]

end Run

/-- The calls, after those made before, can be told from what came of them. -/
def Outcome.Told {σ β : Type} (before : List Call) (out : Outcome σ β) (calls : β → List Call) :
    Prop :=
  before ++ out.calls = calls out.value

namespace Run

variable {σ α β : Type}

def Told (before : List Call) (run : Run σ β) (calls : β → List Call) : Prop :=
  ∀ clock state, (run clock state).Told before calls

namespace Told

variable {before : List Call} {calls : β → List Call}

theorem pure {found : β} (done : calls found = before) :
    Told before (Pure.pure found : Run σ β) calls :=
  fun _ _ => (List.append_nil before).trans done.symm

theorem map {f : α → β} {run : Run σ α} (told : Told before run (calls ∘ f)) :
    Told before (f <$> run) calls := by
  intro clock state
  rw [Outcome.Told, calls_map, value_map]
  exact told clock state

section At

variable {clock : Nat} {state : σ}

/-- What follows a run is told with the calls of that run before it. -/
theorem bind_at {run : Run σ α} {next : α → Run σ β} {between : α → List Call}
    (first : (run clock state).Told before between)
    (rest :
      let start := run clock state
      (next start.value start.clock start.state).Told (between start.value) calls) :
    ((run >>= next) clock state).Told before calls := by
  rw [Outcome.Told, calls_bind, ← List.append_assoc, first]
  exact rest

theorem proceed_at {run : Run σ (Except Fault α)} {failed : Fault → β} {next : α → Run σ β}
    (stops : ∀ fault, calls (failed fault) = before ++ (run clock state).calls)
    (goesOn :
      let start := run clock state
      ∀ value, (next value start.clock start.state).Told (before ++ start.calls) calls) :
    (run.proceed failed next clock state).Told before calls := by
  have made : (run clock state).Told before fun _ => before ++ (run clock state).calls := rfl
  refine bind_at made ?_
  simp only
  cases (run clock state).value with
  | error fault => exact pure (stops fault) _ _
  | ok value => exact goesOn value

end At

theorem bind {run : Run σ α} {next : α → Run σ β} {between : α → List Call}
    (first : Told before run between) (rest : ∀ found, Told (between found) (next found) calls) :
    Told before (run >>= next) calls :=
  fun clock state => bind_at (first clock state) (rest _ _ _)

theorem proceed {first : List Call} {run : Run σ (Except Fault α)} {failed : Fault → β}
    {next : α → Run σ β} (made : ∀ clock state, (run clock state).calls = first)
    (stops : ∀ fault, calls (failed fault) = before ++ first)
    (goesOn : ∀ value, Told (before ++ first) (next value) calls) :
    Told before (run.proceed failed next) calls :=
  fun clock state => proceed_at (made clock state ▸ stops) fun value =>
    made clock state ▸ goesOn value _ _

end Told
end Run

/-- The same calls in the same time, with the same state left; what comes of them is the account of
what comes of the plain run. -/
structure Outcome.Recounts {σ α β : Type} (out : Outcome σ α) (plain : Outcome σ β)
    (account : β → α) : Prop where
  value : out.value = account plain.value
  calls : out.calls = plain.calls
  clock : out.clock = plain.clock
  state : out.state = plain.state

namespace Procedure

variable {σ α β γ δ : Type}

theorem discard_bind (p : Procedure σ α) (next : PUnit → Procedure σ β) :
    discard p >>= next = p >>= fun _ => next ⟨⟩ := by
  change ((fun _ => PUnit.unit) <$> p) >>= next = _
  rw [bind_map_left]

/-- From this report on the procedure recounts the run, wherever it starts. -/
def Recounts (p : Procedure σ α) (report : CaseReport) (run : Run σ β)
    (account : β → Except Fault α × CaseReport) : Prop :=
  ∀ clock state, (p.exec report clock state).Recounts (run clock state) account

namespace Recounts

section Rules

variable {report : CaseReport} {account : β → Except Fault γ × CaseReport}

theorem pure {value : γ} {found : β} (done : account found = (.ok value, report)) :
    Recounts (Pure.pure value : Procedure σ γ) report (Pure.pure found) account :=
  fun _ _ => ⟨done.symm, rfl, rfl, rfl⟩

theorem throw {fault : Fault} {found : β} (done : account found = (.error fault, report)) :
    Recounts (throw fault : Procedure σ γ) report (Pure.pure found) account :=
  fun _ _ => ⟨done.symm, rfl, rfl, rfl⟩

theorem map {p : Procedure σ γ} {f : δ → β} {run : Run σ δ}
    (recounts : Recounts p report run (account ∘ f)) : Recounts p report (f <$> run) account := by
  intro clock state
  obtain ⟨value, calls, ends, leaves⟩ := recounts clock state
  exact ⟨value, calls.trans (Run.calls_map f run clock state).symm, ends, leaves⟩

theorem note_bind {n : Note} {next : Unit → Procedure σ γ} {run : Run σ β}
    (rest : Recounts (next ()) (report.record n) run account) :
    Recounts (note n >>= next) report run account := by
  intro clock state
  obtain ⟨value, calls, ends, leaves⟩ := rest clock state
  exact ⟨value, calls, ends, leaves⟩

theorem note {n : Note} {account : β → Except Fault Unit × CaseReport} {found : β}
    (done : account found = (.ok (), report.record n)) :
    Recounts (note n : Procedure σ Unit) report (Pure.pure found) account :=
  fun _ _ => ⟨done.symm, rfl, rfl, rfl⟩

/-- A procedure goes on from its account of a run like the run from what it found, and stops at a
fault without a further call. -/
theorem bind {p : Procedure σ α} {next : α → Procedure σ γ} {run : Run σ δ} {rest : δ → Run σ β}
    {between : δ → Except Fault α × CaseReport} (first : Recounts p report run between)
    (stops : ∀ seen fault last, between seen = (.error fault, last) →
      ∃ found, rest seen = Pure.pure found ∧ account found = (.error fault, last))
    (goesOn : ∀ seen value last, between seen = (.ok value, last) →
      Recounts (next value) last (rest seen) account) :
    Recounts (p >>= next) report (run >>= rest) account := by
  intro clock state
  obtain ⟨value, calls, ends, leaves⟩ := first clock state
  rcases told : between (run clock state).value with ⟨_ | middle, last⟩
  · obtain ⟨found, done, same⟩ := stops _ _ _ told
    simp only [exec_bind_of_error next (value.trans told), Run.bind_apply, done]
    refine ⟨same.symm, ?_, ends, leaves⟩
    simpa [Outcome.calls, Run.pure_apply] using calls
  · obtain ⟨value', calls', ends', leaves'⟩ :=
      goesOn _ _ _ told (run clock state).clock (run clock state).state
    simp only [exec_bind_of_ok next (value.trans told), Run.bind_apply, ends, leaves]
    refine ⟨value', ?_, ends', leaves'⟩
    simp only [Outcome.calls, List.filterMap_append] at calls calls' ⊢
    rw [calls, calls']

theorem of (run : Run σ (Except Fault γ)) : Recounts (of run) report run (·, report) := by
  intro clock state
  refine ⟨rfl, ?_, rfl, rfl⟩
  simp [Outcome.calls, exec_of]

/-- A query of the run is made; either it fails, or the procedure recounts what follows it. -/
theorem of_bind {run : Run σ (Except Fault α)} {next : α → Procedure σ γ} {failed : Fault → β}
    {rest : α → Run σ β} (stops : ∀ fault, account (failed fault) = (.error fault, report))
    (goesOn : ∀ value, Recounts (next value) report (rest value) account) :
    Recounts (Procedure.of run >>= next) report (run.proceed failed rest) account := by
  refine bind (of run) ?_ ?_
  · rintro _ fault _ ⟨⟩
    exact ⟨failed fault, rfl, stops fault⟩
  · rintro _ value _ ⟨⟩
    exact goesOn value

/-- Notes that are made one after the other cost no call. -/
theorem forM_bind {p : α → Procedure σ Unit} {toNote : α → Note}
    (notes : ∀ item, p item = Procedure.note (toNote item)) {items : List α}
    {next : Unit → Procedure σ γ} {run : Run σ β}
    (rest : Recounts (next ()) (report.recordAll (items.map toNote)) run account) :
    Recounts (items.forM p >>= next) report run account := by
  induction items generalizing report with
  | nil => exact rest
  | cons item items ih =>
    change Recounts ((p item >>= fun _ => items.forM p) >>= next) report run account
    rw [bind_assoc, notes]
    exact note_bind (ih rest)

theorem forM {p : α → Procedure σ Unit} {toNote : α → Note}
    (notes : ∀ item, p item = Procedure.note (toNote item)) {items : List α}
    {account : β → Except Fault Unit × CaseReport} {found : β}
    (done : account found = (.ok (), report.recordAll (items.map toNote))) :
    Recounts (items.forM p) report (Pure.pure found) account := by
  have whole : Recounts (items.forM p >>= Pure.pure) report (Pure.pure found) account :=
    forM_bind notes (pure done)
  rwa [bind_pure] at whole

end Rules

theorem report {p : Procedure σ Unit} {name : String} {run : Run σ β}
    {account : β → Except Fault Unit × CaseReport} (recounts : Recounts p { name } run account)
    (clock : Nat) (state : σ) :
    (p.report name clock state).Recounts (run clock state) (Procedure.ended ∘ account) := by
  obtain ⟨value, calls, ends, leaves⟩ := recounts clock state
  refine ⟨?_, ?_, ?_, ?_⟩
  · rw [value_report, value]
    rfl
  · rw [calls_report, calls]
  · rw [clock_report, ends]
  · rw [state_report, leaves]

end Recounts
end Procedure
end OpticsCheck
