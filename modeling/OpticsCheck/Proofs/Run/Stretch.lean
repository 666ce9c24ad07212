import OpticsCheck.Run.Procedure

/-!
# Stretches of runs

A stretch of a run has a start, a trace and an end. A relation between the three that holds where
nothing happens, and of two stretches in a row when it holds of each, holds of a whole run as soon
as it holds of every call and of every note in it. What is said of all runs of a check is mostly
said in this way.
-/

namespace OpticsCheck

/-- Relates the clock and the state at the start, the trace, and the clock and the state at the
end. -/
abbrev Stretch (σ : Type) := Nat → σ → List Mark → Nat → σ → Prop

structure Stretch.Composes {σ : Type} (R : Stretch σ) : Prop where
  empty : ∀ clock state, R clock state [] clock state
  append : ∀ {clock clock' clock'' state state' state'' first second},
    R clock state first clock' state' → R clock' state' second clock'' state'' →
      R clock state (first ++ second) clock'' state''

/-- A relation on a device's states, also read as one on reports and states. -/
def Stretch.onDevice {σ : Type} (R : Stretch σ) : Stretch (CaseReport × σ) :=
  fun clock before trace clock' after => R clock before.2 trace clock' after.2

theorem Stretch.Composes.onDevice {σ : Type} {R : Stretch σ} (composes : R.Composes) :
    R.onDevice.Composes where
  empty clock before := composes.empty clock before.2
  append first second := composes.append first second

/-- What a relation on reports and states says while the report stays as it is. -/
def Stretch.withReport {σ : Type} (R : Stretch (CaseReport × σ)) (report : CaseReport) :
    Stretch σ :=
  fun clock before trace clock' after => R clock (report, before) trace clock' (report, after)

theorem Stretch.Composes.withReport {σ : Type} {R : Stretch (CaseReport × σ)}
    (composes : R.Composes) (report : CaseReport) : (R.withReport report).Composes where
  empty clock state := composes.empty clock (report, state)
  append first second := composes.append first second

def writesIn (trace : List Mark) : List Call := (trace.filterMap Mark.call?).filter Call.isWrite

@[simp] theorem writesIn_append (first second : List Mark) :
    writesIn (first ++ second) = writesIn first ++ writesIn second := by
  simp [writesIn]

theorem writesIn_called_write {call : Call} (write : call.isWrite = true) (trace : List Mark) :
    writesIn (.called call :: trace) = call :: writesIn trace := by
  simp [writesIn, Mark.call?, write]

theorem writesIn_called_read {call : Call} (read : call.isWrite = false) (trace : List Mark) :
    writesIn (.called call :: trace) = writesIn trace := by
  simp [writesIn, Mark.call?, read]

theorem writesIn_map_logged (events : List Event) : writesIn (events.map .logged) = [] := by
  have silent : events.filterMap (Mark.call? ∘ Mark.logged) = [] :=
    List.filterMap_eq_nil_iff.mpr fun _ _ => rfl
  rw [writesIn, List.filterMap_map, silent]
  rfl

/-- Exactly these writes are made, in this order. -/
def Stretch.Writes {τ : Type} (calls : List Call) : Stretch τ :=
  fun _ _ trace _ _ => writesIn trace = calls

theorem Stretch.quiet_composes {τ : Type} : (Writes [] : Stretch τ).Composes where
  empty _ _ := rfl
  append first second := by
    simp only [Writes] at first second ⊢
    rw [writesIn_append, first, second]
    rfl

/-- No more than this many milliseconds pass. -/
def Stretch.Within {τ : Type} (millis : Nat) : Stretch τ :=
  fun clock _ _ clock' _ => clock' ≤ clock + millis

theorem Stretch.instant_composes {τ : Type} : (Within 0 : Stretch τ).Composes where
  empty clock _ := Nat.le_refl clock
  append first second := Nat.le_trans second first

/-- The report keeps its name. -/
def Stretch.SameName {σ : Type} : Stretch (CaseReport × σ) :=
  fun _ before _ _ after => after.1.name = before.1.name

theorem Stretch.sameName_composes {σ : Type} : (SameName : Stretch (CaseReport × σ)).Composes where
  empty _ _ := rfl
  append first second := second.trans first

/-- The report's entries stay, and others may follow them. -/
def Stretch.Extends {σ : Type} : Stretch (CaseReport × σ) :=
  fun _ before _ _ after => before.1.entries <+: after.1.entries

theorem Stretch.extends_composes {σ : Type} : (Extends : Stretch (CaseReport × σ)).Composes where
  empty _ before := List.prefix_refl before.1.entries
  append first second := first.trans second

namespace Outcome

variable {σ α : Type}

/-- The writes among the calls. -/
def writes (outcome : Outcome σ α) : List Call := writesIn outcome.trace

end Outcome

namespace Run

variable {σ α β : Type}

section Equations

variable (clock : Nat) (state : σ)

@[simp] theorem value_pure (value : α) : ((pure value : Run σ α) clock state).value = value := rfl

@[simp] theorem clock_pure (value : α) : ((pure value : Run σ α) clock state).clock = clock := rfl

@[simp] theorem state_pure (value : α) : ((pure value : Run σ α) clock state).state = state := rfl

@[simp] theorem trace_pure (value : α) : ((pure value : Run σ α) clock state).trace = [] := rfl

@[simp] theorem value_bind (first : Run σ α) (next : α → Run σ β) :
    ((first >>= next) clock state).value =
      (next (first clock state).value (first clock state).clock (first clock state).state).value :=
  rfl

@[simp] theorem clock_bind (first : Run σ α) (next : α → Run σ β) :
    ((first >>= next) clock state).clock =
      (next (first clock state).value (first clock state).clock (first clock state).state).clock :=
  rfl

@[simp] theorem state_bind (first : Run σ α) (next : α → Run σ β) :
    ((first >>= next) clock state).state =
      (next (first clock state).value (first clock state).clock (first clock state).state).state :=
  rfl

@[simp] theorem trace_bind (first : Run σ α) (next : α → Run σ β) :
    ((first >>= next) clock state).trace = (first clock state).trace ++
      (next (first clock state).value (first clock state).clock (first clock state).state).trace :=
  rfl

@[simp] theorem value_map (f : α → β) (run : Run σ α) :
    ((f <$> run) clock state).value = f (run clock state).value := rfl

@[simp] theorem clock_map (f : α → β) (run : Run σ α) :
    ((f <$> run) clock state).clock = (run clock state).clock := rfl

@[simp] theorem state_map (f : α → β) (run : Run σ α) :
    ((f <$> run) clock state).state = (run clock state).state := rfl

@[simp] theorem trace_map (f : α → β) (run : Run σ α) :
    ((f <$> run) clock state).trace = (run clock state).trace :=
  List.append_nil _

end Equations

/-- The relation holds of the run, from wherever it starts. -/
def Along (R : Stretch σ) (run : Run σ α) : Prop :=
  ∀ clock state,
    R clock state (run clock state).trace (run clock state).clock (run clock state).state

namespace Along

variable {R : Stretch σ}

theorem pure (composes : R.Composes) (value : α) : Along R (Pure.pure value : Run σ α) :=
  fun clock state => composes.empty clock state

theorem bind (composes : R.Composes) {first : Run σ α} {next : α → Run σ β}
    (start : Along R first) (rest : ∀ value, Along R (next value)) : Along R (first >>= next) :=
  fun clock state => composes.append (start clock state) (rest _ _ _)

/-- A call's stretch lasts as long as the device takes to answer. -/
theorem call (name : Call) {query : Query σ α}
    (each : ∀ clock state, R clock state (.called name :: (query clock state).log.map .logged)
      (clock + (query clock state).delay) (query clock state).state) :
    Along R (Run.call name query) := each

theorem write_call {name : Call} (write : name.isWrite = true) (query : Query σ α) :
    Along (.Writes [name]) (Run.call name query) :=
  call name fun clock state => by
    simp only [Stretch.Writes, writesIn_called_write write, writesIn_map_logged]

theorem quiet_call {name : Call} (read : name.isWrite = false) (query : Query σ α) :
    Along (.Writes []) (Run.call name query) :=
  call name fun _ _ => (writesIn_called_read read _).trans (writesIn_map_logged _)

theorem instant_call (name : Call) {query : Query σ α}
    (instant : ∀ clock state, (query clock state).delay = 0) :
    Along (.Within 0) (Run.call name query) :=
  call name fun clock state => Nat.le_of_eq (congrArg (clock + ·) (instant clock state))

theorem mapM (composes : R.Composes) {items : List α} {run : α → Run σ β}
    (each : ∀ item ∈ items, Along R (run item)) : Along R (items.mapM run) := by
  induction items with
  | nil => exact pure composes []
  | cons item rest ih =>
    rw [List.mapM_cons]
    refine bind composes (each item List.mem_cons_self) fun value => ?_
    refine bind composes (ih fun other mem => each other (List.mem_cons_of_mem item mem)) ?_
    exact fun values => pure composes (value :: values)

end Along
end Run

namespace Procedure

variable {σ α β : Type}

/-- Goes on with a report. -/
def exec (p : Procedure σ α) (report : CaseReport) : Run σ (Except Fault α × CaseReport) :=
  p.run.run report

theorem exec_of (run : Run σ (Except Fault α)) (report : CaseReport) :
    (of run).exec report = do return (← run, report) := rfl

theorem of_pure_ok (value : α) : of (σ := σ) (pure (.ok value)) = pure value := rfl

theorem exec_bind (p : Procedure σ α) (next : α → Procedure σ β) (report : CaseReport) :
    (p >>= next).exec report = do
      let (result, report) ← p.exec report
      match result with
      | .ok value => (next value).exec report
      | .error fault => return (.error fault, report) := by
  simp only [exec, ExceptT.run_bind, StateT.run_bind]
  refine congrArg (p.run.run report >>= ·) (funext fun ⟨result, report⟩ => ?_)
  cases result <;> rfl

theorem exec_discard (p : Procedure σ α) (report : CaseReport) :
    (discard p).exec report = do
      let (result, report) ← p.exec report
      return ((fun _ => ()) <$> result, report) := by
  change ((fun _ => ()) <$> p).exec report = _
  simp only [exec, ExceptT.run_map, StateT.run_map]
  rfl

theorem exec_note_bind (n : Note) (next : Unit → Procedure σ β) (report : CaseReport) :
    (note n >>= next).exec report =
      Run.log (n.event report.name) >>= fun _ => (next ()).exec (report.record n) := rfl

/-- What follows a procedure that ends well starts with its report. -/
theorem exec_bind_of_ok {p : Procedure σ α} (next : α → Procedure σ β)
    {report report' : CaseReport} {clock : Nat} {state : σ} {value : α}
    (ok : (p.exec report clock state).value = (.ok value, report')) :
    (p >>= next).exec report clock state =
      let start := p.exec report clock state
      let rest := (next value).exec report' start.clock start.state
      { rest with trace := start.trace ++ rest.trace } := by
  rw [exec_bind]
  generalize p.exec report = run at ok ⊢
  simp only [Run.bind_apply]
  generalize run clock state = start at ok ⊢
  rw [ok]

/-- Nothing follows a procedure that ends in a fault. -/
theorem exec_bind_of_error {p : Procedure σ α} (next : α → Procedure σ β)
    {report report' : CaseReport} {clock : Nat} {state : σ} {fault : Fault}
    (error : (p.exec report clock state).value = (.error fault, report')) :
    (p >>= next).exec report clock state =
      { p.exec report clock state with value := (.error fault, report') } := by
  rw [exec_bind]
  generalize p.exec report = run at error ⊢
  simp only [Run.bind_apply]
  generalize run clock state = start at error ⊢
  rw [error]
  simp [Run.pure_apply]

/-- Where two procedures in a row end well, so does the first, and the second goes on from there. -/
theorem ok_of_exec_bind {p : Procedure σ α} {next : α → Procedure σ β} {report last : CaseReport}
    {clock : Nat} {state : σ} {value : β}
    (ok : ((p >>= next).exec report clock state).value = (.ok value, last)) :
    ∃ middle between, (p.exec report clock state).value = (.ok middle, between) ∧
      let start := p.exec report clock state
      let rest := (next middle).exec between start.clock start.state
      rest.value = (.ok value, last) ∧
        ((p >>= next).exec report clock state).state = rest.state := by
  rcases begun : (p.exec report clock state).value with ⟨result, between⟩
  cases result with
  | error fault =>
    rw [exec_bind_of_error next begun] at ok
    cases ok
  | ok middle =>
    rw [exec_bind_of_ok next begun] at ok ⊢
    exact ⟨middle, between, rfl, ok, rfl⟩

theorem ok_of_exec_of_bind {run : Run σ (Except Fault α)} {next : α → Procedure σ β}
    {report last : CaseReport} {clock : Nat} {state : σ} {value : β}
    (ok : ((of run >>= next).exec report clock state).value = (.ok value, last)) :
    ∃ middle, (run clock state).value = .ok middle ∧
      let start := run clock state
      let rest := (next middle).exec report start.clock start.state
      rest.value = (.ok value, last) ∧
        ((of run >>= next).exec report clock state).state = rest.state := by
  obtain ⟨middle, between, begun, rest⟩ := ok_of_exec_bind ok
  obtain ⟨answered, rfl⟩ := Prod.mk.inj begun
  exact ⟨middle, answered, rest⟩

theorem ok_of_exec_log_bind {message : String} {next : Unit → Procedure σ β}
    {report last : CaseReport} {clock : Nat} {state : σ} {value : β}
    (ok : ((log message >>= next).exec report clock state).value = (.ok value, last)) :
    let rest := (next ()).exec (report.record (.log message)) clock state
    rest.value = (.ok value, last) ∧
      ((log message >>= next).exec report clock state).state = rest.state :=
  ⟨ok, rfl⟩

theorem report_eq (p : Procedure σ Unit) (name : String) :
    p.report name = do
      let (result, report) ← p.exec { name }
      match result with
      | .ok () => return report
      | .error fault =>
        Run.log ((Note.abort fault).event report.name)
        return report.record (.abort fault) := rfl

/-- The report that a procedure's end leaves. -/
def ended : Except Fault Unit × CaseReport → CaseReport
  | (.ok (), report) => report
  | (.error fault, report) => report.record (.abort fault)

section Report

variable (p : Procedure σ Unit) (name : String) (clock : Nat) (state : σ)

variable {p name clock state} in
theorem report_of_ok {report : CaseReport}
    (ok : (p.exec { name } clock state).value = (.ok (), report)) :
    p.report name clock state = { p.exec { name } clock state with value := report } := by
  rw [report_eq]
  generalize p.exec { name } = run at ok ⊢
  simp only [Run.bind_apply]
  generalize run clock state = body at ok ⊢
  rw [ok]
  simp [Run.pure_apply]

variable {p name clock state} in
/-- The fault that ends a procedure is noted last. -/
theorem report_of_error {report : CaseReport} {fault : Fault}
    (error : (p.exec { name } clock state).value = (.error fault, report)) :
    p.report name clock state =
      { p.exec { name } clock state with
        value := report.record (.abort fault)
        trace := (p.exec { name } clock state).trace ++
          [.logged ((Note.abort fault).event report.name)] } := by
  rw [report_eq]
  generalize p.exec { name } = run at error ⊢
  simp only [Run.bind_apply]
  generalize run clock state = body at error ⊢
  rw [error]
  rfl

theorem value_report :
    (p.report name clock state).value = ended (p.exec { name } clock state).value := by
  rcases end_ : (p.exec { name } clock state).value with ⟨_ | _, report⟩
  · rw [report_of_error end_]
    rfl
  · rw [report_of_ok end_]
    rfl

theorem clock_report : (p.report name clock state).clock = (p.exec { name } clock state).clock := by
  rcases ended : (p.exec { name } clock state).value with ⟨_ | _, report⟩
  · rw [report_of_error ended]
  · rw [report_of_ok ended]

theorem state_report : (p.report name clock state).state = (p.exec { name } clock state).state := by
  rcases ended : (p.exec { name } clock state).value with ⟨_ | _, report⟩
  · rw [report_of_error ended]
  · rw [report_of_ok ended]

/-- A fault adds no entry. -/
theorem entries_report :
    (p.report name clock state).value.entries =
      (p.exec { name } clock state).value.2.entries := by
  rcases ended : (p.exec { name } clock state).value with ⟨_ | _, report⟩
  · rw [report_of_error ended]
    rfl
  · rw [report_of_ok ended]

/-- The fault that ends a procedure is noted without a call. -/
theorem calls_report :
    (p.report name clock state).calls = (p.exec { name } clock state).calls := by
  rcases ended : (p.exec { name } clock state).value with ⟨_ | _, report⟩
  · rw [report_of_error ended]
    simp [Outcome.calls, Mark.call?]
  · rw [report_of_ok ended]
    rfl

theorem writes_report :
    (p.report name clock state).writes = (p.exec { name } clock state).writes :=
  congrArg (List.filter Call.isWrite) (calls_report p name clock state)

end Report

/-- The relation holds of the procedure, whatever the report it starts with. -/
def Along (R : Stretch (CaseReport × σ)) (p : Procedure σ α) : Prop :=
  ∀ report clock state,
    let out := p.exec report clock state
    R clock (report, state) out.trace out.clock (out.value.2, out.state)

/-- The relation holds of whatever is noted. -/
def Notes (R : Stretch (CaseReport × σ)) : Prop :=
  ∀ (n : Note) report clock state, R clock (report, state)
    [.logged (n.event report.name)] clock (report.record n, state)

theorem notes_quiet : Notes (Stretch.Writes [] : Stretch (CaseReport × σ)) := fun _ _ _ _ => rfl

theorem notes_instant : Notes (Stretch.Within 0 : Stretch (CaseReport × σ)) :=
  fun _ _ clock _ => Nat.le_refl clock

theorem notes_sameName : Notes (Stretch.SameName : Stretch (CaseReport × σ)) := by
  intro n report _ _
  cases n <;> rfl

theorem notes_extends : Notes (Stretch.Extends : Stretch (CaseReport × σ)) := by
  intro n report _ _
  cases n with
  | log message => exact List.prefix_append _ _
  | error message => exact List.prefix_append _ _
  | skip reason => exact List.prefix_refl _
  | abort fault => exact List.prefix_refl _

namespace Along

variable {R : Stretch (CaseReport × σ)}

theorem pure (composes : R.Composes) (value : α) : Along R (Pure.pure value : Procedure σ α) :=
  fun report clock state => composes.empty clock (report, state)

theorem note (notes : Notes R) (n : Note) : Along R (Procedure.note n : Procedure σ Unit) :=
  fun report clock state => notes n report clock state

theorem of {run : Run σ (Except Fault α)}
    (along : ∀ report, Run.Along (R.withReport report) run) : Along R (Procedure.of run) := by
  intro report clock state
  simpa [exec_of, Stretch.withReport] using along report clock state

/-- Two relations that the two parts of a procedure keep to make one of the whole. -/
theorem andThen {start rest : Stretch (CaseReport × σ)} {p : Procedure σ α}
    {next : α → Procedure σ β}
    (stops : ∀ {clock before trace clock' after},
      start clock before trace clock' after → R clock before trace clock' after)
    (goesOn : ∀ {clock clock' clock'' before between after first second},
      start clock before first clock' between → rest clock' between second clock'' after →
        R clock before (first ++ second) clock'' after)
    (first : Along start p) (second : ∀ value, Along rest (next value)) :
    Along R (p >>= next) := by
  intro report clock state
  have begun := first report clock state
  rcases ended : (p.exec report clock state).value with ⟨result, report'⟩
  simp only [ended] at begun
  cases result with
  | ok value =>
    simpa only [exec_bind_of_ok next ended] using goesOn begun (second value report' _ _)
  | error fault => simpa only [exec_bind_of_error next ended] using stops begun

theorem bind (composes : R.Composes) {p : Procedure σ α} {next : α → Procedure σ β}
    (first : Along R p) (second : ∀ value, Along R (next value)) : Along R (p >>= next) :=
  andThen id composes.append first second

/-- What follows a procedure without writing leaves its writes alone. -/
theorem writes_bind {calls : List Call} {p : Procedure σ α} {next : α → Procedure σ β}
    (first : Along (.Writes calls) p) (second : ∀ value, Along (.Writes []) (next value)) :
    Along (.Writes calls) (p >>= next) := by
  refine andThen id ?_ first second
  intro _ _ _ _ _ _ first second begun rest
  simp only [Stretch.Writes] at begun rest ⊢
  rw [writesIn_append, begun, rest, List.append_nil]

theorem within_bind {first second : Nat} {p : Procedure σ α} {next : α → Procedure σ β}
    (begun : Along (.Within first) p) (rest : ∀ value, Along (.Within second) (next value)) :
    Along (.Within (first + second)) (p >>= next) := by
  refine andThen ?_ ?_ begun rest
  · intro clock _ _ clock' _ begun
    simp only [Stretch.Within] at begun ⊢
    omega
  · intro clock clock' clock'' _ _ _ _ _ begun rest
    simp only [Stretch.Within] at begun rest ⊢
    omega

theorem discard {p : Procedure σ α} (along : Along R p) :
    Along R (Functor.discard p : Procedure σ PUnit) := by
  intro report clock state
  have body := along report clock state
  simpa [exec_discard] using body

theorem forM (composes : R.Composes) {items : List α} {p : α → Procedure σ Unit}
    (each : ∀ item ∈ items, Along R (p item)) : Along R (items.forM p) := by
  induction items with
  | nil => exact pure composes ()
  | cons item rest ih =>
    refine bind composes (each item List.mem_cons_self) fun _ => ?_
    exact ih fun other mem => each other (List.mem_cons_of_mem item mem)

/-- A report keeps what its procedure keeps, also where a fault ends it. -/
theorem report (composes : R.Composes) (notes : Notes R) {p : Procedure σ Unit}
    (along : Along R p) (name : String) (clock : Nat) (state : σ) :
    let out := p.report name clock state
    R clock ({ name }, state) out.trace out.clock (out.value, out.state) := by
  have body := along { name } clock state
  rcases ended : (p.exec { name } clock state).value with ⟨_ | _, report⟩
  · simp only [ended] at body
    simpa only [report_of_error ended] using composes.append body (notes _ report _ _)
  · simpa only [ended, report_of_ok ended] using body

end Along
end Procedure
end OpticsCheck
