import OpticsCheck.Proofs.Report.Warnings
import OpticsCheck.Proofs.Run.Waiting

/-!
# Procedures that tell what they note

A device is hushed when it logs nothing from warnings on and its faults have no control in them.
Runs against a hushed device are hushed too. So all warnings and errors in the log of a procedure
come from its notes, and the lines of them can be read off the report in the end.
-/

namespace OpticsCheck

/-- The fault that it may be has no control in its message. -/
def PlainFault {α : Type} (result : Except Fault α) : Prop :=
  ∀ fault, result = .error fault → Text.isPlain fault.message = true

namespace PlainFault

variable {α β : Type}

theorem ok (value : α) : PlainFault (.ok value) := nofun

theorem error {fault : Fault} (plain : Text.isPlain fault.message = true) :
    PlainFault (.error fault : Except Fault α) := by
  rintro _ ⟨⟩
  exact plain

theorem map {result : Except Fault α} (plain : PlainFault result) (f : α → β) :
    PlainFault (f <$> result) := by
  cases result with
  | ok value => exact ok (f value)
  | error fault => exact error (plain fault rfl)

theorem bind {result : Except Fault α} {next : α → Except Fault β} (plain : PlainFault result)
    (rest : ∀ value, PlainFault (next value)) : PlainFault (result >>= next) := by
  cases result with
  | ok value => exact rest value
  | error fault => exact error (plain fault rfl)

end PlainFault

structure Reply.Hushed {σ α : Type} (reply : Reply σ α) : Prop where
  silent : warningsIn (reply.log.map .logged) = []
  plain : PlainFault reply.answer

/-- A reply that logs nothing. -/
theorem Reply.Hushed.of_plain {σ α : Type} {answer : Except Fault α} (plain : PlainFault answer)
    (state : σ) : Reply.Hushed { answer, state } :=
  ⟨rfl, plain⟩

structure Outcome.Hushed {σ α : Type} (out : Outcome σ (Except Fault α)) : Prop where
  silent : out.warnings = []
  plain : PlainFault out.value

structure Device.Hushed {σ : Type} (dut : Device σ) : Prop where
  port : ∀ id, PlainFault (dut.port id)
  find : ∀ kind clock state, (dut.find kind clock state).Hushed
  mfgName : ∀ component clock state, (dut.mfgName component clock state).Hushed
  samples : ∀ leaf component clock state, (dut.samples leaf component clock state).Hushed
  operStatus : ∀ interface clock state, (dut.operStatus interface clock state).Hushed
  replace : ∀ config clock state, (dut.replace config clock state).Hushed

/-- The run logs nothing from warnings on, and its fault has no control. -/
def Run.Hushed {σ α : Type} (run : Run σ (Except Fault α)) : Prop :=
  ∀ clock state, (run clock state).Hushed

namespace Run.Hushed

variable {σ α β : Type}

theorem pure {result : Except Fault α} (plain : PlainFault result) :
    Hushed (Pure.pure result : Run σ (Except Fault α)) :=
  fun _ _ => ⟨rfl, plain⟩

theorem call (name : Call) {query : Query σ α} (each : ∀ clock state, (query clock state).Hushed) :
    Hushed (Run.call name query) :=
  fun clock state => ⟨(each clock state).silent, (each clock state).plain⟩

/-- What follows need not be hushed where it could only follow a fault with a control. -/
theorem bind {first : Run σ (Except Fault α)} {next : Except Fault α → Run σ (Except Fault β)}
    (start : Hushed first) (rest : ∀ result, PlainFault result → Hushed (next result)) :
    Hushed (first >>= next) := by
  intro clock state
  obtain ⟨silent, plain⟩ := start clock state
  obtain ⟨later, plainLater⟩ := rest _ plain (first clock state).clock (first clock state).state
  refine ⟨?_, plainLater⟩
  simp only [Outcome.warnings] at silent later ⊢
  rw [trace_bind, warningsIn_append, silent, later]
  rfl

end Run.Hushed

theorem Device.Hushed.runReadings {σ : Type} {dut : Device σ} (hushed : dut.Hushed)
    (component : String) : (dut.runReadings component).Hushed := by
  have samples (leaf : Leaf) : (dut.runSamples leaf component).Hushed :=
    .call _ (hushed.samples leaf component)
  refine .bind (samples .inputPower) fun inputs plain => ?_
  cases inputs with
  | error fault => exact .pure (.error (plain fault rfl))
  | ok inputs =>
    refine .bind (samples .outputPower) fun outputs plain => ?_
    cases outputs with
    | error fault => exact .pure (.error (plain fault rfl))
    | ok outputs =>
      refine .bind (samples .biasCurrent) fun currents plain => ?_
      cases currents with
      | error fault => exact .pure (.error (plain fault rfl))
      | ok currents => exact .pure (.ok _)

/-- A wait's fault is that of a read or its own, which quotes the interface. -/
theorem Wait.hushed_run {σ : Type} (w : Wait) {dut : Device σ} (hushed : dut.Hushed) :
    (w.run dut).Hushed := by
  intro clock state
  constructor
  · refine w.along_run dut Stretch.silent_composes ?_ (fun _ _ _ _ _ => ?_) clock state
    · exact fun clock state _ _ _ => (hushed.operStatus w.interface clock state).silent
    · exact warningsIn_of_low (Nat.lt_add_of_pos_right Nat.two_pos)
  · by_cases decided :
      ∃ last, w.DecidedBy (w.reads w.pause dut clock state) (clock + w.timeout) last
    · obtain ⟨last, decided⟩ := decided
      rw [(run_of_decidedBy decided).1]
      -- which read it was decides only when and in what state it was made
      cases last with
      | zero => exact (hushed.operStatus w.interface _ _).plain
      | succ last => exact (hushed.operStatus w.interface _ _).plain
    · obtain ⟨_, seen, value, _⟩ := run_of_not_decidedBy decided
      rw [value]
      exact .error (Fault.isPlain_message rfl)

namespace Procedure

variable {σ α β : Type}

/-- What the procedure notes is orderly, and what it logs from warnings on are the lines of that. -/
structure Told (skips : Bool) (report : CaseReport)
    (out : Outcome σ (Except Fault α × CaseReport)) : Prop where
  notes : ∃ notes, Note.Orderly skips notes ∧ out.value.2 = report.recordAll notes ∧
    out.warnings = notes.flatMap (Note.warnings report.name)
  plain : PlainFault out.value.1

/-- Whatever was noted before, the procedure tells what it notes. -/
def Tells (skips : Bool) (p : Procedure σ α) : Prop :=
  ∀ report clock state, Told skips report (p.exec report clock state)

namespace Tells

variable {skips : Bool}

theorem of {run : Run σ (Except Fault α)} (hushed : run.Hushed) : Tells skips (of run) := by
  intro _ clock state
  obtain ⟨silent, plain⟩ := hushed clock state
  refine ⟨⟨[], .done, rfl, ?_⟩, plain⟩
  simpa [exec_of, Outcome.warnings] using silent

theorem throw {fault : Fault} (plain : Text.isPlain fault.message = true) :
    Tells skips (throw fault : Procedure σ α) :=
  fun _ _ _ => ⟨⟨[], .done, rfl, rfl⟩, .error plain⟩

theorem note {n : Note} (orderly : Note.Orderly skips [n]) :
    Tells skips (note n : Procedure σ Unit) :=
  fun _ _ _ => ⟨⟨[n], orderly, rfl, (List.append_nil _).symm⟩, .ok ()⟩

theorem log (message : String) : Tells skips (log message : Procedure σ Unit) :=
  note (.log message .done)

theorem error {message : String} (plain : Text.isPlain message = true) :
    Tells skips (error message : Procedure σ Unit) :=
  note (.error plain .done)

theorem skip {reason : String} (plain : Text.isPlain reason = true) :
    Tells true (skip reason : Procedure σ Unit) :=
  note (.skip rfl plain)

/-- Only what comes last may note a reason to skip. -/
theorem bind {p : Procedure σ α} {next : α → Procedure σ β} (first : Tells false p)
    (rest : ∀ value, Tells skips (next value)) : Tells skips (p >>= next) := by
  intro report clock state
  obtain ⟨⟨notes, orderly, noted, told⟩, plain⟩ := first report clock state
  rcases ended : (p.exec report clock state).value with ⟨result, report'⟩
  rw [ended] at noted plain
  cases result with
  | error fault =>
    rw [exec_bind_of_error next ended]
    exact ⟨⟨notes, orderly.mono, noted, told⟩, .error (plain fault rfl)⟩
  | ok value =>
    obtain ⟨⟨later, orderly', noted', told'⟩, plain'⟩ := rest value report' _ _
    rw [exec_bind_of_ok next ended]
    obtain rfl : report' = report.recordAll notes := noted
    refine ⟨⟨notes ++ later, orderly.append orderly', ?_, ?_⟩, plain'⟩
    · rw [CaseReport.recordAll_append]
      exact noted'
    · -- notes do not rename a case, so both parts tell of the same one
      rw [CaseReport.name_recordAll] at told'
      simp only [Outcome.warnings] at told told' ⊢
      rw [warningsIn_append, told, told', List.flatMap_append]

theorem discard {p : Procedure σ α} (tells : Tells skips p) :
    Tells skips (Functor.discard p : Procedure σ PUnit) := by
  intro report clock state
  obtain ⟨notes, plain⟩ := tells report clock state
  rw [exec_discard]
  exact ⟨by simpa [Outcome.warnings] using notes, plain.map _⟩

theorem forM {items : List α} {p : α → Procedure σ Unit}
    (each : ∀ item ∈ items, Tells false (p item)) : Tells skips (items.forM p) := by
  induction items with
  | nil => exact fun _ _ _ => ⟨⟨[], .done, rfl, rfl⟩, .ok ()⟩
  | cons item rest ih =>
    refine bind (each item List.mem_cons_self) fun _ => ?_
    exact ih fun other mem => each other (List.mem_cons_of_mem item mem)

/-- What was logged of the case from warnings on can be read off its report. -/
theorem report {p : Procedure σ Unit} (tells : Tells skips p) {name : String}
    (plainName : Text.isPlain name = true) (clock : Nat) (state : σ) :
    (p.report name clock state).warnings = (p.report name clock state).value.warnings := by
  obtain ⟨⟨notes, orderly, noted, told⟩, plain⟩ := tells { name } clock state
  rcases ended : (p.exec { name } clock state).value with ⟨_ | _, report⟩
  all_goals
    rw [ended] at noted plain
    obtain rfl : report = { name := name : CaseReport }.recordAll notes := noted
  · rw [report_of_error ended, CaseReport.warnings_record_abort (orderly.fatal_eq_none name)
      (by simpa using plainName) (plain _ rfl), CaseReport.warnings_recordAll orderly]
    simp only [Outcome.warnings] at told ⊢
    rw [warningsIn_append, told]
    rfl
  · rw [report_of_ok ended, CaseReport.warnings_recordAll orderly]
    exact told

end Tells
end Procedure

/-- Runs that each tell a case's report tell, one after the other, all of their reports. -/
theorem Run.warnings_mapM {σ α : Type} {items : List α} {run : α → Run σ CaseReport}
    (each : ∀ item ∈ items, ∀ clock state,
      (run item clock state).warnings = (run item clock state).value.warnings) (clock : Nat)
    (state : σ) :
    ((items.mapM run) clock state).warnings =
      ((items.mapM run) clock state).value.flatMap CaseReport.warnings := by
  induction items generalizing clock state with
  | nil => rfl
  | cons item rest ih =>
    have first := each item List.mem_cons_self clock state
    have later := ih (fun other mem => each other (List.mem_cons_of_mem item mem))
      (run item clock state).clock (run item clock state).state
    simp only [Outcome.warnings] at first later
    rw [List.mapM_cons]
    simp [Outcome.warnings, first, later]

end OpticsCheck
