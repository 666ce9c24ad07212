import Mathlib.Data.Nat.Find
import OpticsCheck.Device.Script
import OpticsCheck.Proofs.Run.Stretch

/-!
# The reads of a wait

A wait that nothing ends reads forever, each read a fixed pause after the end of the one before.
Which of these reads a real wait makes, and what it answers, follows from the first of them that
gives the expected status or a fault: if that read ends by the deadline the wait ends with it, and
otherwise at the deadline.
-/

namespace OpticsCheck

/-- A status read: when it starts, and what comes of it. -/
structure Read (σ : Type) where
  start : Nat
  reply : Reply σ OperStatus

namespace Read

variable {σ : Type}

def finish (r : Read σ) : Nat := r.start + r.reply.delay

/-- The read gives a fault or the expected status. -/
def Decides (r : Read σ) (expected : OperStatus) : Prop :=
  ∀ status, r.reply.answer = .ok status → status = expected

theorem not_decides_iff {r : Read σ} {expected : OperStatus} :
    ¬ r.Decides expected ↔ ∃ status, r.reply.answer = .ok status ∧ status ≠ expected := by
  simp [Decides]

/-- The status of the last read that ends by the deadline, if any does. -/
def LastSeen (reads : Nat → Read σ) (deadline : Nat) : Option OperStatus → Prop
  | none => ∀ j, deadline < (reads j).finish
  | some status => ∃ j, (reads j).finish ≤ deadline ∧ (∀ k, j < k → deadline < (reads k).finish) ∧
      (reads j).reply.answer = .ok status

theorem LastSeen.of_tail {reads : Nat → Read σ} {deadline : Nat} {status : OperStatus}
    (h : LastSeen (fun j => reads (j + 1)) deadline (some status)) :
    LastSeen reads deadline (some status) := by
  obtain ⟨j, inTime, late, answer⟩ := h
  refine ⟨j + 1, inTime, fun k later => ?_, answer⟩
  cases k with
  | zero => omega
  | succ k => exact late k (Nat.lt_of_succ_lt_succ later)

theorem LastSeen.of_first {reads : Nat → Read σ} {deadline : Nat} {status : OperStatus}
    (inTime : (reads 0).finish ≤ deadline) (late : ∀ j, deadline < (reads (j + 1)).finish)
    (answer : (reads 0).reply.answer = .ok status) : LastSeen reads deadline (some status) := by
  refine ⟨0, inTime, fun k later => ?_, answer⟩
  cases k with
  | zero => omega
  | succ k => exact late k

end Read

/-- A device that answers the status reads written out and has nothing else to say. -/
def Script.ofReads (reads : List ScriptedRead) : Script where
  name := "dut"
  model := "model"
  vendor := .cisco
  ports := []
  transceivers := .ok []
  mfgNames := []
  inputPowers := []
  outputPowers := []
  biasCurrents := []
  reads := reads
  writes := []

namespace Wait

variable {σ : Type}

/-- The read that follows another one `gap` milliseconds after its end. -/
def readAfter (w : Wait) (gap : Nat) (dut : Device σ) (r : Read σ) : Read σ :=
  ⟨r.finish + gap, dut.operStatus w.interface (r.finish + gap) r.reply.state⟩

/-- The reads of a wait that nothing ends. -/
def reads (w : Wait) (gap : Nat) (dut : Device σ) (clock : Nat) (state : σ) : Nat → Read σ
  | 0 => ⟨clock, dut.operStatus w.interface clock state⟩
  | j + 1 => w.readAfter gap dut (w.reads gap dut clock state j)

/-- After the first read a wait goes on like one that starts a pause later. -/
theorem reads_succ (w : Wait) (gap : Nat) (dut : Device σ) (clock : Nat) (state : σ) (j : Nat) :
    w.reads gap dut clock state (j + 1) =
      let first := dut.operStatus w.interface clock state
      w.reads gap dut (clock + (first.delay + gap)) first.state j := by
  induction j with
  | zero => simp only [reads, readAfter, Read.finish, Nat.add_assoc]
  | succ j ih => exact congrArg (w.readAfter gap dut) ih

theorem finish_add_le_start (w : Wait) (gap : Nat) (dut : Device σ) (clock : Nat) (state : σ)
    {j k : Nat} (before : j < k) :
    (w.reads gap dut clock state j).finish + gap ≤ (w.reads gap dut clock state k).start := by
  induction k with
  | zero => omega
  | succ k ih =>
    rcases Nat.lt_succ_iff_lt_or_eq.mp before with earlier | rfl
    · have := ih earlier
      simp only [reads, readAfter, Read.finish] at this ⊢
      omega
    · exact Nat.le_refl _

theorem first_finish_add_le_start (w : Wait) (gap : Nat) (dut : Device σ) (clock : Nat) (state : σ)
    {j : Nat} (later : 0 < j) :
    clock + (dut.operStatus w.interface clock state).delay + gap ≤
      (w.reads gap dut clock state j).start :=
  w.finish_add_le_start gap dut clock state later

/-- `last` is the first deciding read, and it ends by the deadline. -/
structure DecidedBy (w : Wait) (reads : Nat → Read σ) (deadline last : Nat) : Prop where
  decides : (reads last).Decides w.expected
  first : ∀ j < last, ¬ (reads j).Decides w.expected
  inTime : (reads last).finish ≤ deadline

/-- The status read that a wait makes over and over. -/
def query (w : Wait) : Call := .operStatus w.interface

/-- What a wait comes to whose reads follow each other after `gap` milliseconds. -/
structure Bounded (w : Wait) (gap : Nat) (dut : Device σ) (clock : Nat) (state : σ)
    (out : Outcome σ (Except Fault OperStatus)) : Prop where
  decided : ∀ last, w.DecidedBy (w.reads gap dut clock state) (clock + w.timeout) last →
    out.value = (w.reads gap dut clock state last).reply.answer ∧
    out.clock = (w.reads gap dut clock state last).finish ∧
    out.state = (w.reads gap dut clock state last).reply.state ∧
    out.calls = List.replicate (last + 1) w.query
  expired : (¬ ∃ last, w.DecidedBy (w.reads gap dut clock state) (clock + w.timeout) last) →
    ∃ last seen,
      out.value = .error (.awaitTimeout w.interface w.expected seen (.ofMillis w.timeout)) ∧
      out.clock = clock + w.timeout ∧
      out.state = (w.reads gap dut clock state last).reply.state ∧
      out.calls = List.replicate (last + 1) w.query ∧
      (∀ j, j ≤ last ↔ (w.reads gap dut clock state j).start ≤ clock + w.timeout) ∧
      Read.LastSeen (w.reads gap dut clock state) (clock + w.timeout) seen ∧
      seen ≠ some w.expected

section GoOn

variable {w : Wait} {dut : Device σ} {left clock : Nat} {state : σ}

/-- The trace once the read that starts now has been made. -/
def traceOf (w : Wait) (reply : Reply σ OperStatus) (past : List Mark) : List Mark :=
  (reply.log.map .logged).reverse ++ .called w.query :: past

theorem calls_traceOf (w : Wait) (reply : Reply σ OperStatus) (past : List Mark) :
    (w.traceOf reply past).reverse.filterMap Mark.call? =
      past.reverse.filterMap Mark.call? ++ [w.query] := by
  have silent : reply.log.filterMap (Mark.call? ∘ Mark.logged) = [] :=
    List.filterMap_eq_nil_iff.mpr fun _ _ => rfl
  simp [traceOf, List.filterMap_append, List.filterMap_map, silent, Mark.call?]

/-- What is logged before the next pause changes no call. -/
theorem calls_logged_traceOf (w : Wait) (event : Event) (reply : Reply σ OperStatus)
    (past : List Mark) :
    (.logged event :: w.traceOf reply past).reverse.filterMap Mark.call? =
      past.reverse.filterMap Mark.call? ++ [w.query] := by
  rw [List.reverse_cons, List.filterMap_append, calls_traceOf]
  exact List.append_nil _

theorem goOn_of_abandoned (lastSeen : Option OperStatus) (past : List Mark)
    (slow : left < (dut.operStatus w.interface clock state).delay) :
    let reply := dut.operStatus w.interface clock state
    w.goOn dut left lastSeen past clock state =
      ⟨.error (w.expired lastSeen), clock + left, reply.state, (w.traceOf reply past).reverse⟩ := by
  rw [goOn]
  simp only [slow, if_true]
  rfl

theorem goOn_of_decides (lastSeen : Option OperStatus) (past : List Mark)
    (inTime : (dut.operStatus w.interface clock state).delay ≤ left)
    (decides : (w.reads w.pause dut clock state 0).Decides w.expected) :
    let reply := dut.operStatus w.interface clock state
    w.goOn dut left lastSeen past clock state =
      ⟨reply.answer, clock + reply.delay, reply.state, (w.traceOf reply past).reverse⟩ := by
  rw [goOn]
  simp only [Nat.not_lt.mpr inTime, if_false]
  cases answer : (dut.operStatus w.interface clock state).answer with
  | error fault => rfl
  | ok status =>
    have expected : status = w.expected := decides status answer
    simp only [expected, if_true]
    rfl

theorem goOn_of_other (lastSeen : Option OperStatus) (past : List Mark) {status : OperStatus}
    (inTime : (dut.operStatus w.interface clock state).delay ≤ left)
    (answer : (dut.operStatus w.interface clock state).answer = .ok status)
    (other : status ≠ w.expected) :
    let reply := dut.operStatus w.interface clock state
    let waiting := .logged (w.stillWaiting status) :: w.traceOf reply past
    w.goOn dut left lastSeen past clock state =
      if left < reply.delay + w.pause then
        ⟨.error (w.expired (some status)), clock + left, reply.state, waiting.reverse⟩
      else w.goOn dut (left - (reply.delay + w.pause)) (some status) waiting
        (clock + (reply.delay + w.pause)) reply.state := by
  intro reply waiting
  rw [goOn]
  simp only [Nat.not_lt.mpr inTime, if_false, answer, other]
  rfl

end GoOn

/-- Reads that follow the first one decide a wait when they decide what is left of it. -/
theorem decidedBy_succ_iff {w : Wait} {gap : Nat} {dut : Device σ} {clock left : Nat} {state : σ}
    (other : ¬ (w.reads gap dut clock state 0).Decides w.expected)
    (longer : (dut.operStatus w.interface clock state).delay + gap ≤ left) (last : Nat) :
    let first := dut.operStatus w.interface clock state
    w.DecidedBy (w.reads gap dut clock state) (clock + left) (last + 1) ↔
      w.DecidedBy (w.reads gap dut (clock + (first.delay + gap)) first.state)
        (clock + (first.delay + gap) + (left - (first.delay + gap))) last := by
  intro first
  have deadline : clock + (first.delay + gap) + (left - (first.delay + gap)) = clock + left := by
    have : first.delay + gap ≤ left := longer
    omega
  rw [deadline]
  constructor
  · intro h
    refine ⟨?_, fun j before => ?_, ?_⟩
    · simpa only [reads_succ] using h.decides
    · simpa only [reads_succ] using h.first (j + 1) (Nat.succ_lt_succ before)
    · simpa only [reads_succ] using h.inTime
  · intro h
    refine ⟨?_, fun j before => ?_, ?_⟩
    · simpa only [reads_succ] using h.decides
    · cases j with
      | zero => exact other
      | succ j => simpa only [reads_succ] using h.first j (Nat.lt_of_succ_lt_succ before)
    · simpa only [reads_succ] using h.inTime

theorem goOn_of_decidedBy (w : Wait) (dut : Device σ) (last left : Nat)
    (lastSeen : Option OperStatus) (past : List Mark) (clock : Nat) (state : σ)
    (decided : w.DecidedBy (w.reads w.pause dut clock state) (clock + left) last) :
    let out := w.goOn dut left lastSeen past clock state
    out.value = (w.reads w.pause dut clock state last).reply.answer ∧
    out.clock = (w.reads w.pause dut clock state last).finish ∧
    out.state = (w.reads w.pause dut clock state last).reply.state ∧
    out.calls = past.reverse.filterMap Mark.call? ++ List.replicate (last + 1) w.query := by
  induction last generalizing left lastSeen past clock state with
  | zero =>
    have inTime := decided.inTime
    simp only [reads, Read.finish] at inTime
    rw [goOn_of_decides lastSeen past (by omega) decided.decides]
    exact ⟨rfl, rfl, rfl, w.calls_traceOf _ past⟩
  | succ last ih =>
    have other := decided.first 0 (Nat.add_one_pos last)
    obtain ⟨status, answer, differs⟩ := Read.not_decides_iff.mp other
    have later := w.first_finish_add_le_start w.pause dut clock state (Nat.add_one_pos last)
    have inTime := decided.inTime
    have longer : (dut.operStatus w.interface clock state).delay + w.pause ≤ left := by
      simp only [Read.finish] at inTime
      omega
    rw [goOn_of_other lastSeen past (by omega) answer differs]
    simp only [Nat.not_lt.mpr longer, if_false]
    obtain ⟨value, ends, leaves, calls⟩ := ih _ (some status) _ _ _
      ((decidedBy_succ_iff other longer last).mp decided)
    rw [reads_succ]
    refine ⟨value, ends, leaves, calls.trans ?_⟩
    rw [calls_logged_traceOf, List.append_assoc]
    rfl

theorem goOn_of_not_decidedBy (w : Wait) (dut : Device σ) (left : Nat)
    (lastSeen : Option OperStatus) (past : List Mark) (clock : Nat) (state : σ)
    (never : ¬ ∃ last, w.DecidedBy (w.reads w.pause dut clock state) (clock + left) last) :
    let out := w.goOn dut left lastSeen past clock state
    ∃ last seen,
      out.value = .error (w.expired seen) ∧
      out.clock = clock + left ∧
      out.state = (w.reads w.pause dut clock state last).reply.state ∧
      out.calls = past.reverse.filterMap Mark.call? ++ List.replicate (last + 1) w.query ∧
      (∀ j, j ≤ last ↔ (w.reads w.pause dut clock state j).start ≤ clock + left) ∧
      ((∀ j, clock + left < (w.reads w.pause dut clock state j).finish) ∧ seen = lastSeen ∨
        seen ≠ none ∧ Read.LastSeen (w.reads w.pause dut clock state) (clock + left) seen) := by
  induction left using Nat.strongRecOn generalizing lastSeen past clock state with
  | ind left ih =>
    have positive := w.pause_pos
    have onlyFirst : left < (dut.operStatus w.interface clock state).delay + w.pause →
        ∀ j, j ≤ 0 ↔ (w.reads w.pause dut clock state j).start ≤ clock + left := by
      intro short j
      cases j with
      | zero => simp [reads]
      | succ j =>
        have := w.first_finish_add_le_start w.pause dut clock state (Nat.add_one_pos j)
        omega
    by_cases slow : left < (dut.operStatus w.interface clock state).delay
    · rw [goOn_of_abandoned lastSeen past slow]
      refine ⟨0, lastSeen, rfl, rfl, rfl, w.calls_traceOf _ past, onlyFirst (by omega),
        .inl ⟨fun j => ?_, rfl⟩⟩
      cases j with
      | zero => simpa [reads, Read.finish] using slow
      | succ j =>
        have := w.first_finish_add_le_start w.pause dut clock state (Nat.add_one_pos j)
        simp only [Read.finish]
        omega
    · have other : ¬ (w.reads w.pause dut clock state 0).Decides w.expected := fun decides =>
        never ⟨0, decides, fun _ before => absurd before (Nat.not_lt_zero _), by
          simpa [reads, Read.finish] using slow⟩
      obtain ⟨status, answer, differs⟩ := Read.not_decides_iff.mp other
      rw [goOn_of_other lastSeen past (Nat.not_lt.mp slow) answer differs]
      by_cases short : left < (dut.operStatus w.interface clock state).delay + w.pause
      · rw [if_pos short]
        refine ⟨0, some status, rfl, rfl, rfl, w.calls_logged_traceOf _ _ past, onlyFirst short,
          .inr ⟨nofun, .of_first ?_ (fun j => ?_) answer⟩⟩
        · simpa [reads, Read.finish] using slow
        · have := w.first_finish_add_le_start w.pause dut clock state (Nat.add_one_pos j)
          simp only [Read.finish]
          omega
      · rw [if_neg short]
        have longer := Nat.not_lt.mp short
        obtain ⟨last, seen, value, ends, leaves, calls, started, lastSeen⟩ :=
          ih (left - ((dut.operStatus w.interface clock state).delay + w.pause)) (by omega)
            (some status) (.logged (w.stillWaiting status) :: w.traceOf _ past)
            (clock + ((dut.operStatus w.interface clock state).delay + w.pause)) _
            fun ⟨last, decided⟩ =>
              never ⟨last + 1, (decidedBy_succ_iff other longer last).mpr decided⟩
        have deadline : clock + ((dut.operStatus w.interface clock state).delay + w.pause) +
            (left - ((dut.operStatus w.interface clock state).delay + w.pause)) = clock + left := by
          omega
        rw [deadline] at ends started lastSeen
        refine ⟨last + 1, seen, value, ends, ?_, calls.trans ?_, fun j => ?_, .inr ?_⟩
        · rw [reads_succ, leaves]
        · rw [calls_logged_traceOf, List.append_assoc]
          rfl
        · cases j with
          | zero => simp [reads]
          | succ j =>
            rw [reads_succ]
            simpa using started j
        · have tail := funext (w.reads_succ w.pause dut clock state)
          rcases lastSeen with ⟨late, rfl⟩ | ⟨some, lastSeen⟩
          · refine ⟨nofun, .of_first ?_ (fun j => ?_) answer⟩
            · simpa [reads, Read.finish] using slow
            · rw [reads_succ]
              exact late j
          · obtain ⟨status, rfl⟩ := Option.ne_none_iff_exists'.mp some
            exact ⟨nofun, .of_tail (tail ▸ lastSeen)⟩

/-- A wait that a read decides in time ends with that read. -/
theorem run_of_decidedBy {w : Wait} {dut : Device σ} {clock last : Nat} {state : σ}
    (decided : w.DecidedBy (w.reads w.pause dut clock state) (clock + w.timeout) last) :
    (w.run dut clock state).value = (w.reads w.pause dut clock state last).reply.answer ∧
    (w.run dut clock state).clock = (w.reads w.pause dut clock state last).finish ∧
    (w.run dut clock state).state = (w.reads w.pause dut clock state last).reply.state ∧
    (w.run dut clock state).calls = List.replicate (last + 1) w.query :=
  w.goOn_of_decidedBy dut last w.timeout none [] clock state decided

/-- A wait that no read decides in time ends at the deadline. -/
theorem run_of_not_decidedBy {w : Wait} {dut : Device σ} {clock : Nat} {state : σ}
    (never : ¬ ∃ last, w.DecidedBy (w.reads w.pause dut clock state) (clock + w.timeout) last) :
    ∃ last seen,
      (w.run dut clock state).value = .error (w.expired seen) ∧
      (w.run dut clock state).clock = clock + w.timeout ∧
      (w.run dut clock state).state = (w.reads w.pause dut clock state last).reply.state ∧
      (w.run dut clock state).calls = List.replicate (last + 1) w.query ∧
      (∀ j, j ≤ last ↔ (w.reads w.pause dut clock state j).start ≤ clock + w.timeout) ∧
      Read.LastSeen (w.reads w.pause dut clock state) (clock + w.timeout) seen := by
  obtain ⟨last, seen, value, ends, leaves, calls, started, lastSeen⟩ :=
    w.goOn_of_not_decidedBy dut w.timeout none [] clock state never
  refine ⟨last, seen, value, ends, leaves, calls, started, ?_⟩
  rcases lastSeen with ⟨late, rfl⟩ | ⟨_, lastSeen⟩
  · exact late
  · exact lastSeen

/-- A wait makes status reads and no other call, and it makes one at least. -/
theorem calls_run (w : Wait) (dut : Device σ) (clock : Nat) (state : σ) :
    ∃ last, (w.run dut clock state).calls = List.replicate (last + 1) w.query := by
  by_cases h : ∃ last, w.DecidedBy (w.reads w.pause dut clock state) (clock + w.timeout) last
  · obtain ⟨last, decided⟩ := h
    exact ⟨last, (run_of_decidedBy decided).2.2.2⟩
  · obtain ⟨last, _, _, _, _, calls, _⟩ := run_of_not_decidedBy h
    exact ⟨last, calls⟩

theorem clock_run_le (w : Wait) (dut : Device σ) (clock : Nat) (state : σ) :
    (w.run dut clock state).clock ≤ clock + w.timeout := by
  by_cases h : ∃ last, w.DecidedBy (w.reads w.pause dut clock state) (clock + w.timeout) last
  · obtain ⟨last, decided⟩ := h
    rw [(run_of_decidedBy decided).2.1]
    exact decided.inTime
  · obtain ⟨_, _, _, ends, _⟩ := run_of_not_decidedBy h
    exact Nat.le_of_eq ends

theorem reverse_traceOf (w : Wait) (reply : Reply σ OperStatus) (past : List Mark) :
    (w.traceOf reply past).reverse = past.reverse ++ .called w.query :: reply.log.map .logged := by
  simp [traceOf]

/-- What holds of every read, abandoned ones too, and of every pause holds of a wait. -/
theorem along_run (w : Wait) (dut : Device σ) {R : Stretch σ} (composes : R.Composes)
    (read : ∀ clock state clock', clock ≤ clock' →
      clock' ≤ clock + (dut.operStatus w.interface clock state).delay →
      R clock state
        (.called w.query :: (dut.operStatus w.interface clock state).log.map .logged)
        clock' (dut.operStatus w.interface clock state).state)
    (waiting : ∀ status clock clock' state, clock ≤ clock' →
      R clock state [.logged (w.stillWaiting status)] clock' state) :
    Run.Along R (w.run dut) := by
  suffices ∀ left lastSeen past start first clock state, R start first past.reverse clock state →
      let out := w.goOn dut left lastSeen past clock state
      R start first out.trace out.clock out.state from
    fun clock state => this w.timeout none [] clock state clock state (composes.empty clock state)
  intro left
  induction left using Nat.strongRecOn with
  | ind left ih =>
    intro lastSeen past start first clock state before
    by_cases slow : left < (dut.operStatus w.interface clock state).delay
    · rw [goOn_of_abandoned lastSeen past slow, reverse_traceOf]
      have ends : clock + left ≤ clock + (dut.operStatus w.interface clock state).delay := by omega
      exact composes.append before (read _ _ _ (Nat.le_add_right _ _) ends)
    · by_cases decides : (w.reads w.pause dut clock state 0).Decides w.expected
      · rw [goOn_of_decides lastSeen past (by omega) decides, reverse_traceOf]
        exact composes.append before (read _ _ _ (Nat.le_add_right _ _) (Nat.le_refl _))
      · obtain ⟨status, answer, differs⟩ := Read.not_decides_iff.mp decides
        rw [goOn_of_other lastSeen past (Nat.not_lt.mp slow) answer differs]
        have read := composes.append before (read _ _ _ (Nat.le_add_right clock _) (Nat.le_refl _))
        have paused : ∀ clock',
            clock + (dut.operStatus w.interface clock state).delay ≤ clock' →
            R start first (.logged (w.stillWaiting status) ::
              w.traceOf (dut.operStatus w.interface clock state) past).reverse clock'
              (dut.operStatus w.interface clock state).state := by
          intro clock' later
          rw [List.reverse_cons, reverse_traceOf]
          exact composes.append read (waiting status _ _ _ later)
        split
        · exact paused _ (Nat.add_le_add_left (Nat.not_lt.mp slow) _)
        · have positive := w.pause_pos
          exact ih _ (by omega) _ _ _ _ _ _ (paused _ (by omega))

theorem quiet_run (w : Wait) (dut : Device σ) : Run.Along (.Writes []) (w.run dut) :=
  w.along_run dut Stretch.quiet_composes
    (fun _ _ _ _ _ => (writesIn_called_read rfl _).trans (writesIn_map_logged _))
    (fun _ _ _ _ _ => rfl)

theorem pause_eq_min {w : Wait} (positive : 1 ≤ w.poll) : w.pause = min w.poll longestPause := by
  rw [pause, Nat.max_eq_left positive]

theorem finish_mono (w : Wait) (gap : Nat) (dut : Device σ) (clock : Nat) (state : σ)
    {j k : Nat} (le : j ≤ k) :
    (w.reads gap dut clock state j).finish ≤ (w.reads gap dut clock state k).finish := by
  rcases Nat.lt_or_eq_of_le le with before | rfl
  · have := w.finish_add_le_start gap dut clock state before
    simp only [Read.finish] at this ⊢
    omega
  · exact Nat.le_refl _

/-- Where no read decides in time, no read in time gives the expected status. -/
theorem lastSeen_ne_expected {w : Wait} {gap : Nat} {dut : Device σ} {clock deadline : Nat}
    {state : σ} {seen : Option OperStatus}
    (never : ¬ ∃ last, w.DecidedBy (w.reads gap dut clock state) deadline last)
    (lastSeen : Read.LastSeen (w.reads gap dut clock state) deadline seen) :
    seen ≠ some w.expected := by
  rintro rfl
  obtain ⟨j, inTime, _, answer⟩ := lastSeen
  have decides : (w.reads gap dut clock state j).Decides w.expected := fun status same =>
    (Except.ok.inj (answer.symm.trans same)).symm
  -- the read need not be the first to decide, but the first one ends no later
  classical
  have some : ∃ k, (w.reads gap dut clock state k).Decides w.expected := ⟨j, decides⟩
  have earlier := w.finish_mono gap dut clock state (Nat.find_min' some decides)
  exact never ⟨Nat.find some, Nat.find_spec some, fun _ => Nat.find_min some,
    Nat.le_trans earlier inTime⟩

/-- A wait comes to what its reads say, whatever the device answers and however long it takes. -/
theorem run_bounded (w : Wait) (positive : 1 ≤ w.poll) (dut : Device σ) (clock : Nat) (state : σ) :
    w.Bounded (min w.poll longestPause) dut clock state (w.run dut clock state) := by
  rw [← pause_eq_min positive]
  refine ⟨fun last decided => run_of_decidedBy decided, fun never => ?_⟩
  obtain ⟨last, seen, value, ends, leaves, calls, started, lastSeen⟩ := run_of_not_decidedBy never
  exact ⟨last, seen, value, ends, leaves, calls, started, lastSeen,
    lastSeen_ne_expected never lastSeen⟩

/-- The second read starts in time, is still under way at the deadline and is abandoned. -/
theorem run_bounded_of_slow_read :
    let w : Wait := { interface := "i", expected := .up, timeout := 10, poll := 5 }
    let dut := (Script.ofReads [{ answer := .ok .down }, { answer := .ok .up, delay := 7 }]).device
    1 ≤ w.poll ∧ w.Bounded (min w.poll longestPause) dut 3 {} (w.run dut 3 {}) :=
  ⟨by decide, run_bounded _ (by decide) _ _ _⟩

/-- No pause is longer than the longest one: where the poll interval is, the second read starts
earlier than the poll interval says. -/
theorem not_bounded_beyond_longestPause :
    let w : Wait :=
      { interface := "i", expected := .up, timeout := longestPause, poll := longestPause + 1 }
    let dut := (Script.ofReads [{ answer := .ok .down }, { answer := .ok .up }]).device
    1 ≤ w.poll ∧ ¬ w.Bounded w.poll dut 0 {} (w.run dut 0 {}) := by
  intro w dut
  refine ⟨Nat.le_add_left 1 longestPause, fun law => ?_⟩
  have never : ¬ ∃ last, w.DecidedBy (w.reads w.poll dut 0 {}) (0 + w.timeout) last := by
    rintro ⟨last, decided⟩
    cases last with
    | zero => cases decided.decides .down rfl
    | succ last =>
      have later := w.first_finish_add_le_start w.poll dut 0 {} (Nat.add_one_pos last)
      have inTime := decided.inTime
      simp only [Read.finish, w] at later inTime
      omega
  obtain ⟨_, seen, expired, _⟩ := law.expired never
  have decided : w.DecidedBy (w.reads w.pause dut 0 {}) (0 + w.timeout) 1 := by
    refine ⟨fun status answer => (Except.ok.inj answer).symm, fun j before decides => ?_, ?_⟩
    · obtain rfl := Nat.lt_one_iff.mp before
      cases decides .down rfl
    · have cut : w.pause = longestPause := by
        simp only [pause, w]
        omega
      change 0 + 0 + w.pause + 0 ≤ 0 + longestPause
      omega
  have answered : (w.run dut 0 {}).value = .ok .up := (run_of_decidedBy decided).1
  cases answered.symm.trans expired

end Wait
end OpticsCheck
