import OpticsCheck.Proofs.Run.Waiting

/-!
# Two devices in lockstep

Two devices, each at a time and in a state of its own, that answer alike and take as long over it
cannot be told apart by a run. What keeps them in lockstep is a relation between the clock and the
state of the one and those of the other: as soon as it lasts over every call it lasts over a whole
run, and both runs come to the same value after the same time.
-/

namespace OpticsCheck

/-- Relates the clock and the state of one device to those of another. -/
abbrev Pairing (σ τ : Type) := Nat → σ → Nat → τ → Prop

/-- A pairing that lasts while both devices are left to themselves. -/
def Pairing.Ages {σ τ : Type} (R : Pairing σ τ) : Prop :=
  ∀ clock clock' state state', R clock state clock' state' →
    ∀ millis, R (clock + millis) state (clock' + millis) state'

/-- Both replies say the same, take the same time, and leave the devices paired. -/
structure Reply.Matches {σ τ α : Type} (R : Pairing σ τ) (clock clock' : Nat)
    (reply : Reply σ α) (reply' : Reply τ α) : Prop where
  answer : reply.answer = reply'.answer
  delay : reply.delay = reply'.delay
  paired : R clock reply.state clock' reply'.state

/-- Paired devices reply alike. -/
def Query.Matches {σ τ α : Type} (R : Pairing σ τ) (query : Query σ α) (query' : Query τ α) :
    Prop :=
  ∀ clock clock' state state', R clock state clock' state' →
    Reply.Matches R clock clock' (query clock state) (query' clock' state')

/-- Both came to the same value, took the same time and left the devices paired. -/
structure Outcome.Matches {σ τ α : Type} (R : Pairing σ τ) (clock clock' : Nat)
    (out : Outcome σ α) (out' : Outcome τ α) : Prop where
  value : out.value = out'.value
  takes : ∃ millis, out.clock = clock + millis ∧ out'.clock = clock' + millis
  paired : R out.clock out.state out'.clock out'.state

/-- What started some time later took that much longer. -/
theorem Outcome.Matches.of_later {σ τ α : Type} {R : Pairing σ τ} {clock clock' millis : Nat}
    {out : Outcome σ α} {out' : Outcome τ α}
    (alike : Outcome.Matches R (clock + millis) (clock' + millis) out out') :
    Outcome.Matches R clock clock' out out' := by
  obtain ⟨value, ⟨later, ends, ends'⟩, paired⟩ := alike
  refine ⟨value, ⟨millis + later, ?_, ?_⟩, paired⟩
  · rw [ends, Nat.add_assoc]
  · rw [ends', Nat.add_assoc]

namespace Run

variable {σ τ α β : Type} {R : Pairing σ τ}

/-- From paired devices the runs come to the same. -/
def Lockstep (R : Pairing σ τ) (run : Run σ α) (run' : Run τ α) : Prop :=
  ∀ clock clock' state state', R clock state clock' state' →
    Outcome.Matches R clock clock' (run clock state) (run' clock' state')

namespace Lockstep

theorem pure (value : α) : Lockstep R (Pure.pure value : Run σ α) (Pure.pure value : Run τ α) :=
  fun _ _ _ _ paired => ⟨rfl, ⟨0, rfl, rfl⟩, paired⟩

theorem log (event event' : Event) : Lockstep R (Run.log event) (Run.log event') :=
  fun _ _ _ _ paired => ⟨rfl, ⟨0, rfl, rfl⟩, paired⟩

theorem bind {first : Run σ α} {first' : Run τ α} {next : α → Run σ β} {next' : α → Run τ β}
    (start : Lockstep R first first') (rest : ∀ value, Lockstep R (next value) (next' value)) :
    Lockstep R (first >>= next) (first' >>= next') := by
  intro clock clock' state state' paired
  obtain ⟨value, ⟨begun, ends, ends'⟩, paired⟩ := start clock clock' state state' paired
  have later := rest (first clock state).value _ _ _ _ paired
  rw [ends, ends', value] at later
  obtain ⟨value', takes, paired'⟩ := later.of_later
  refine ⟨?_, ?_, ?_⟩
  · simpa only [Run.value_bind, value, ends, ends'] using value'
  · simpa only [Run.clock_bind, value, ends, ends'] using takes
  · simpa only [Run.clock_bind, Run.state_bind, value, ends, ends'] using paired'

theorem call (ages : R.Ages) {name name' : Call} {query : Query σ α} {query' : Query τ α}
    (alike : Query.Matches R query query') :
    Lockstep R (Run.call name query) (Run.call name' query') := by
  intro clock clock' state state' paired
  obtain ⟨answer, delay, paired⟩ := alike clock clock' state state' paired
  refine ⟨answer, ⟨_, rfl, congrArg (clock' + ·) delay.symm⟩, ?_⟩
  simp only [Run.call, ← delay]
  exact ages _ _ _ _ paired _

theorem mapM {items : List α} {run : α → Run σ β} {run' : α → Run τ β}
    (each : ∀ item ∈ items, Lockstep R (run item) (run' item)) :
    Lockstep R (items.mapM run) (items.mapM run') := by
  induction items with
  | nil => exact pure []
  | cons item rest ih =>
    rw [List.mapM_cons, List.mapM_cons]
    refine bind (each item List.mem_cons_self) fun value => ?_
    refine bind (ih fun other mem => each other (List.mem_cons_of_mem item mem)) fun values => ?_
    exact pure (value :: values)

end Lockstep
end Run

/-- A wait for devices that answer status reads alike. -/
theorem Wait.lockstep_run {σ τ : Type} {R : Pairing σ τ} (ages : R.Ages) (w : Wait)
    {dut : Device σ} {dut' : Device τ}
    (read : Query.Matches R (dut.operStatus w.interface) (dut'.operStatus w.interface)) :
    Run.Lockstep R (w.run dut) (w.run dut') := by
  suffices ∀ left lastSeen past past' clock clock' state state', R clock state clock' state' →
      Outcome.Matches R clock clock' (w.goOn dut left lastSeen past clock state)
        (w.goOn dut' left lastSeen past' clock' state') from
    fun clock clock' state state' => this w.timeout none [] [] clock clock' state state'
  intro left
  induction left using Nat.strongRecOn with
  | ind left ih =>
    intro lastSeen past past' clock clock' state state' paired
    obtain ⟨answer, delay, paired⟩ := read clock clock' state state' paired
    have aged := ages _ _ _ _ paired
    by_cases slow : left < (dut.operStatus w.interface clock state).delay
    · rw [goOn_of_abandoned lastSeen past slow, goOn_of_abandoned lastSeen past' (delay ▸ slow)]
      exact ⟨rfl, ⟨left, rfl, rfl⟩, aged left⟩
    · have inTime := Nat.not_lt.mp slow
      by_cases decides : (w.reads w.pause dut clock state 0).Decides w.expected
      · have decides' : (w.reads w.pause dut' clock' state' 0).Decides w.expected :=
          fun status same => decides status (answer.trans same)
        rw [goOn_of_decides lastSeen past inTime decides,
          goOn_of_decides lastSeen past' (delay ▸ inTime) decides']
        refine ⟨answer, ⟨_, rfl, congrArg (clock' + ·) delay.symm⟩, ?_⟩
        simp only [← delay]
        exact aged _
      · obtain ⟨status, other, differs⟩ := Read.not_decides_iff.mp decides
        rw [goOn_of_other lastSeen past inTime other differs,
          goOn_of_other lastSeen past' (delay ▸ inTime) (answer.symm.trans other) differs]
        simp only [← delay]
        split
        · exact ⟨rfl, ⟨left, rfl, rfl⟩, aged left⟩
        · have positive := w.pause_pos
          exact (ih _ (by omega) (some status) _ _ _ _ _ _ (aged _)).of_later

namespace Procedure

variable {σ τ α β : Type} {R : Pairing σ τ}

/-- Whatever the report that both start with, the procedures come to the same. -/
def Lockstep (R : Pairing σ τ) (p : Procedure σ α) (q : Procedure τ α) : Prop :=
  ∀ report, Run.Lockstep R (p.exec report) (q.exec report)

namespace Lockstep

theorem of {run : Run σ (Except Fault α)} {run' : Run τ (Except Fault α)}
    (lockstep : Run.Lockstep R run run') : Lockstep R (of run) (of run') :=
  fun report => lockstep.bind fun result => .pure (result, report)

theorem note (n : Note) :
    Lockstep R (note n : Procedure σ Unit) (Procedure.note n : Procedure τ Unit) :=
  fun report => (Run.Lockstep.log _ _).bind fun _ => .pure (Except.ok (), report.record n)

theorem bind {p : Procedure σ α} {q : Procedure τ α} {next : α → Procedure σ β}
    {next' : α → Procedure τ β} (first : Lockstep R p q)
    (rest : ∀ value, Lockstep R (next value) (next' value)) :
    Lockstep R (p >>= next) (q >>= next') := by
  intro report
  rw [exec_bind, exec_bind]
  refine (first report).bind fun (result, report) => ?_
  cases result with
  | ok value => exact rest value report
  | error fault => exact .pure (Except.error fault, report)

theorem discard {p : Procedure σ α} {q : Procedure τ α} (lockstep : Lockstep R p q) :
    Lockstep R (Functor.discard p : Procedure σ PUnit) (Functor.discard q) := by
  intro report
  rw [exec_discard, exec_discard]
  exact (lockstep report).bind fun (result, report) => .pure (_, report)

theorem forM {items : List α} {p : α → Procedure σ Unit} {q : α → Procedure τ Unit}
    (each : ∀ item ∈ items, Lockstep R (p item) (q item)) :
    Lockstep R (items.forM p) (items.forM q) := by
  induction items with
  | nil => exact fun report => .pure (Except.ok (), report)
  | cons item rest ih =>
    refine bind (each item List.mem_cons_self) fun _ => ?_
    exact ih fun other mem => each other (List.mem_cons_of_mem item mem)

theorem report {p : Procedure σ Unit} {q : Procedure τ Unit} (lockstep : Lockstep R p q)
    (name : String) : Run.Lockstep R (p.report name) (q.report name) := by
  rw [report_eq, report_eq]
  refine (lockstep { name }).bind fun (result, report) => ?_
  cases result with
  | ok _ => exact .pure report
  | error fault => exact (Run.Lockstep.log _ _).bind fun _ => .pure (report.record (.abort fault))

end Lockstep
end Procedure
end OpticsCheck
