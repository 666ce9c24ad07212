import OpticsCheck.Proofs.Run.Stretch

/-!
# Two runs side by side

Two procedures that start from states and reports that resemble each other come to results, states
and reports that resemble each other, as soon as every call and every note in them does. When they
start does not matter. What resembling means is up to two relations, one between the device's states
and one between the reports.
-/

namespace OpticsCheck

/-- Both fail with the same fault, or neither fails and the values are related. -/
inductive Alike {α β : Type} (V : α → β → Prop) : Except Fault α → Except Fault β → Prop
  | ok {value : α} {value' : β} (values : V value value') : Alike V (.ok value) (.ok value')
  | error (fault : Fault) : Alike V (.error fault) (.error fault)

namespace Alike

variable {α β γ δ : Type} {V : α → β → Prop} {W : γ → δ → Prop}

theorem refl (answer : Except Fault α) : Alike Eq answer answer := by
  cases answer with
  | ok value => exact .ok rfl
  | error fault => exact .error fault

theorem of_eq {answer answer' : Except Fault α} (same : answer = answer') :
    Alike Eq answer answer' :=
  same ▸ refl answer

theorem bind {first : Except Fault α} {first' : Except Fault β} {next : α → Except Fault γ}
    {next' : β → Except Fault δ} (start : Alike V first first')
    (rest : ∀ value value', V value value' → Alike W (next value) (next' value')) :
    Alike W (first >>= next) (first' >>= next') := by
  cases start with
  | ok values => exact rest _ _ values
  | error fault => exact .error fault

end Alike

/-- From related states the runs come to answers that are alike and to related states. -/
def Run.Alongside {σ α β : Type} (S : σ → σ → Prop) (V : α → β → Prop)
    (run : Run σ (Except Fault α)) (run' : Run σ (Except Fault β)) : Prop :=
  ∀ clock clock' state state', S state state' →
    Alike V (run clock state).value (run' clock' state').value ∧
      S (run clock state).state (run' clock' state').state

namespace Procedure

variable {σ α β γ δ : Type}

/-- From related reports and states the procedures come to results that are alike and to related
reports and states. -/
def Alongside (S : σ → σ → Prop) (E : CaseReport → CaseReport → Prop) (V : α → β → Prop)
    (p : Procedure σ α) (q : Procedure σ β) : Prop :=
  ∀ report report' clock clock' state state', E report report' → S state state' →
    let out := p.exec report clock state
    let out' := q.exec report' clock' state'
    Alike V out.value.1 out'.value.1 ∧ E out.value.2 out'.value.2 ∧ S out.state out'.state

namespace Alongside

variable {S : σ → σ → Prop} {E : CaseReport → CaseReport → Prop} {V : α → β → Prop}
  {W : γ → δ → Prop}

theorem of {run : Run σ (Except Fault α)} {run' : Run σ (Except Fault β)}
    (alongside : Run.Alongside S V run run') : Alongside S E V (of run) (of run') := by
  intro report report' clock clock' state state' reports states
  obtain ⟨answers, states⟩ := alongside clock clock' state state' states
  exact ⟨answers, reports, states⟩

theorem note {n n' : Note} (noted : ∀ report report', E report report' →
    E (report.record n) (report'.record n')) :
    Alongside S E Eq (note n : Procedure σ Unit) (Procedure.note n') := by
  intro report report' clock clock' state state' reports states
  exact ⟨.ok rfl, noted report report' reports, states⟩

theorem throw (fault : Fault) :
    Alongside S E V (throw fault : Procedure σ α) (MonadExcept.throw fault : Procedure σ β) := by
  intro report report' clock clock' state state' reports states
  exact ⟨.error fault, reports, states⟩

theorem bind {p : Procedure σ α} {q : Procedure σ β} {next : α → Procedure σ γ}
    {next' : β → Procedure σ δ} (first : Alongside S E V p q)
    (rest : ∀ value value', V value value' → Alongside S E W (next value) (next' value')) :
    Alongside S E W (p >>= next) (q >>= next') := by
  intro report report' clock clock' state state' reports states
  obtain ⟨results, reports, states⟩ := first report report' clock clock' state state' reports states
  rcases ended : (p.exec report clock state).value with ⟨result, left⟩
  rcases ended' : (q.exec report' clock' state').value with ⟨result', left'⟩
  simp only [ended, ended'] at results reports
  cases results with
  | ok values =>
    simp only [exec_bind_of_ok next ended, exec_bind_of_ok next' ended']
    exact rest _ _ values left left' _ _ _ _ reports states
  | error fault =>
    simp only [exec_bind_of_error next ended, exec_bind_of_error next' ended']
    exact ⟨.error fault, reports, states⟩

theorem forM {items : List α} {p q : α → Procedure σ Unit}
    (each : ∀ item ∈ items, Alongside S E Eq (p item) (q item)) :
    Alongside S E Eq (items.forM p) (items.forM q) := by
  induction items with
  | nil => exact fun _ _ _ _ _ _ reports states => ⟨.ok rfl, reports, states⟩
  | cons item rest ih =>
    refine bind (each item List.mem_cons_self) fun _ _ _ => ?_
    exact ih fun other mem => each other (List.mem_cons_of_mem item mem)

section Ended

variable {p q : Procedure σ Unit} (alongside : Alongside S E Eq p q)
  (aborted : ∀ fault report report', E report report' →
    E (report.record (.abort fault)) (report'.record (.abort fault)))
include alongside aborted

/-- The reports that the ends of the procedures leave are related, also where a fault ends them. -/
theorem ended {report report' : CaseReport} (reports : E report report') {state state' : σ}
    (states : S state state') (clock clock' : Nat) :
    E (Procedure.ended (p.exec report clock state).value)
      (Procedure.ended (q.exec report' clock' state').value) := by
  obtain ⟨results, reports, -⟩ := alongside _ _ clock clock' _ _ reports states
  rcases end_ : (p.exec report clock state).value with ⟨result, left⟩
  rcases end_' : (q.exec report' clock' state').value with ⟨result', left'⟩
  simp only [end_, end_'] at results reports
  cases results with
  | ok values => exact reports
  | error fault => exact aborted fault left left' reports

theorem report {name name' : String} (start : E { name } { name := name' }) {state state' : σ}
    (states : S state state') (clock clock' : Nat) :
    E (p.report name clock state).value (q.report name' clock' state').value := by
  rw [value_report, value_report]
  exact alongside.ended aborted start states clock clock'

end Ended

end Alongside
end Procedure
end OpticsCheck
