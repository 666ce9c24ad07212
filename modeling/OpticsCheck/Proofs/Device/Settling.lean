import Mathlib.Data.Nat.Find
import Mathlib.Order.Bounds.Defs
import OpticsCheck.Proofs.Device.Simulated

/-!
# Waiting for the simulated device

The simulated device answers a status read at once and the same way until an interface's settle
window ends. So a wait that does not end with its first read ends with the first one after the
window, if there still is one by the deadline: the length of the wait is the least multiple of the
pause that reaches the end of the window.
-/

namespace OpticsCheck

/-- The first moment of a grid that is at or after a given one. -/
def FirstOnGrid (gap reached n : Nat) : Prop := IsLeast {m | gap ∣ m ∧ reached ≤ m} n

theorem FirstOnGrid.reached_le {gap reached n : Nat} (first : FirstOnGrid gap reached n) :
    reached ≤ n := first.1.2

theorem FirstOnGrid.exists_eq_mul {gap reached n : Nat} (first : FirstOnGrid gap reached n) :
    ∃ k, n = k * gap := by
  obtain ⟨k, product⟩ := first.1.1
  exact ⟨k, product.trans (Nat.mul_comm gap k)⟩

/-- A multiple of the gap is either before the moment or not before the first one on the grid. -/
theorem FirstOnGrid.reached_le_iff {gap reached n : Nat} (first : FirstOnGrid gap reached n)
    (j : Nat) : reached ≤ j * gap ↔ n ≤ j * gap := by
  constructor
  · intro le
    exact first.2 ⟨Nat.dvd_mul_left gap j, le⟩
  · intro le
    exact Nat.le_trans first.reached_le le

theorem exists_firstOnGrid {gap : Nat} (positive : 0 < gap) (reached : Nat) :
    ∃ n, FirstOnGrid gap reached n := by
  classical
  have some : ∃ m, gap ∣ m ∧ reached ≤ m :=
    ⟨gap * reached, Nat.dvd_mul_right gap reached, Nat.le_mul_of_pos_left reached positive⟩
  exact ⟨Nat.find some, Nat.find_spec some, fun _ => Nat.find_min' some⟩

theorem FirstOnGrid.unique {gap reached m n : Nat} (first : FirstOnGrid gap reached m)
    (other : FirstOnGrid gap reached n) : m = n :=
  Nat.le_antisymm (first.2 other.1) (other.2 first.1)

/-- A multiple of the gap is the first that reaches a moment if the one before it does not. -/
theorem firstOnGrid_of_between {gap reached k : Nat} (before : k * gap < reached)
    (reaches : reached ≤ (k + 1) * gap) : FirstOnGrid gap reached ((k + 1) * gap) := by
  refine ⟨⟨Nat.dvd_mul_left gap (k + 1), reaches⟩, ?_⟩
  rintro m ⟨⟨j, rfl⟩, reached⟩
  have longer : k * gap < j * gap := by
    rw [Nat.mul_comm j gap]
    exact Nat.lt_of_lt_of_le before reached
  rw [Nat.mul_comm gap j]
  exact Nat.mul_le_mul_right gap (Nat.lt_of_mul_lt_mul_right longer)

namespace InterfaceState

/-- How long the settle window lasts from now on. -/
def window (s : InterfaceState) (settleTime now : Nat) : Nat :=
  match s.changedAt with
  | none => 0
  | some changedAt => changedAt + settleTime - now

/-- What shows now shows until the window ends. -/
theorem status_add (s : InterfaceState) (settleTime now millis : Nat) :
    s.status settleTime (now + millis) =
      if millis < s.window settleTime now then s.status settleTime now else s.settled := by
  unfold status window
  cases s.changedAt with
  | none => simp
  | some changedAt =>
    by_cases ends : now + millis < changedAt + settleTime
    · have started : now < changedAt + settleTime := by omega
      have within : millis < changedAt + settleTime - now := by omega
      simp [ends, started, within]
    · have ended : ¬ millis < changedAt + settleTime - now := by omega
      simp [ends, ended]

theorem window_set_of_flip {s : InterfaceState} {enabled : Bool} (flip : s.enabled ≠ enabled)
    (settleTime now : Nat) : (s.set settleTime now enabled).window settleTime now = settleTime := by
  rw [set, if_neg flip]
  exact Nat.add_sub_cancel_left now settleTime

end InterfaceState

namespace Wait

variable {t : Topology} {interfaces : Interfaces} {w : Wait} {s : InterfaceState} {clock n : Nat}

/-- Every read of the simulated device takes no time and leaves its state alone. -/
theorem reads_simulated (there : interfaces w.interface = some s) (gap j : Nat) :
    w.reads gap t.device clock interfaces j =
      { start := clock + j * gap
        reply :=
          { answer := .ok (s.status t.settleTime.toNat (clock + j * gap))
            state := interfaces } } := by
  have query (now : Nat) := Topology.operStatus_simulated (t := t) now there
  induction j with
  | zero => simp [reads, query]
  | succ j ih =>
    rw [reads, ih, readAfter]
    simp [Read.finish, query, Nat.succ_mul, Nat.add_assoc]

theorem decides_simulated_iff (there : interfaces w.interface = some s) (gap j : Nat) :
    (w.reads gap t.device clock interfaces j).Decides w.expected ↔
      s.status t.settleTime.toNat (clock + j * gap) = w.expected := by
  simp [reads_simulated there, Read.Decides]

/-- An interface that shows the expected status ends the wait at once. -/
theorem run_of_shown (there : interfaces w.interface = some s)
    (shown : s.status t.settleTime.toNat clock = w.expected) :
    (w.run t.device clock interfaces).value = .ok w.expected ∧
      (w.run t.device clock interfaces).clock = clock := by
  have decided : w.DecidedBy (w.reads w.pause t.device clock interfaces) (clock + w.timeout) 0 := by
    refine ⟨(decides_simulated_iff there _ 0).mpr (by simpa using shown), nofun, ?_⟩
    simp [reads_simulated there, Read.finish]
  obtain ⟨value, ends, _⟩ := run_of_decidedBy decided
  rw [value, ends]
  simp [reads_simulated there, Read.finish, shown]

/-- No status read of an interface that is known fails, so only the deadline ends a wait badly. -/
theorem expired_of_error (there : interfaces w.interface = some s) {fault : Fault}
    (failed : (w.run t.device clock interfaces).value = .error fault) :
    ∃ lastSeen, fault = w.expired lastSeen := by
  by_cases decided : ∃ last,
      w.DecidedBy (w.reads w.pause t.device clock interfaces) (clock + w.timeout) last
  · obtain ⟨last, decided⟩ := decided
    have answered := (run_of_decidedBy decided).1
    rw [failed, reads_simulated there] at answered
    cases answered
  · obtain ⟨_, seen, expired, _⟩ := run_of_not_decidedBy decided
    exact ⟨seen, Except.error.inj (failed.symm.trans expired)⟩

variable (first : FirstOnGrid w.pause (s.window t.settleTime.toNat clock) n)
include first

/-- Before the window ends a read shows what shows now, and after that the settled status. -/
theorem status_at_read (j : Nat) :
    s.status t.settleTime.toNat (clock + j * w.pause) =
      if n ≤ j * w.pause then s.settled else s.status t.settleTime.toNat clock := by
  rw [s.status_add]
  by_cases ended : n ≤ j * w.pause
  · have := (first.reached_le_iff j).mpr ended
    rw [if_neg (Nat.not_lt.mpr this), if_pos ended]
  · have := mt (first.reached_le_iff j).mp ended
    rw [if_pos (Nat.not_le.mp this), if_neg ended]

/-- A wait for the settled status ends with the first read after the window. -/
theorem run_of_settles (there : interfaces w.interface = some s)
    (hidden : s.status t.settleTime.toNat clock ≠ w.expected) (settles : s.settled = w.expected)
    (inTime : n ≤ w.timeout) :
    (w.run t.device clock interfaces).value = .ok w.expected ∧
      (w.run t.device clock interfaces).clock = clock + n := by
  obtain ⟨k, rfl⟩ := first.exists_eq_mul
  have decided : w.DecidedBy (w.reads w.pause t.device clock interfaces) (clock + w.timeout) k := by
    refine ⟨?_, fun j before => ?_, ?_⟩
    · rw [decides_simulated_iff there, status_at_read first, if_pos (Nat.le_refl _)]
      exact settles
    · have earlier := Nat.mul_lt_mul_of_pos_right before w.pause_pos
      rw [decides_simulated_iff there, status_at_read first, if_neg (Nat.not_le.mpr earlier)]
      exact hidden
    · simpa [reads_simulated there, Read.finish] using inTime
  obtain ⟨value, ends, _⟩ := run_of_decidedBy decided
  rw [value, ends]
  simp [reads_simulated there, Read.finish, status_at_read first, settles]

/-- A wait that neither shows nor settles in time ends at the deadline. It has last seen the settled
status if a read was still made after the window. -/
theorem run_of_stuck (there : interfaces w.interface = some s)
    (hidden : s.status t.settleTime.toNat clock ≠ w.expected)
    (stuck : s.settled = w.expected → w.timeout < n) :
    (w.run t.device clock interfaces).value = .error (w.expired (some
        (if n ≤ w.timeout then s.settled else s.status t.settleTime.toNat clock))) ∧
      (w.run t.device clock interfaces).clock = clock + w.timeout := by
  have finish (j : Nat) : (w.reads w.pause t.device clock interfaces j).finish =
      clock + j * w.pause := by
    simp [reads_simulated there, Read.finish]
  have never : ¬ ∃ last, w.DecidedBy (w.reads w.pause t.device clock interfaces)
      (clock + w.timeout) last := by
    rintro ⟨last, decided⟩
    have shows := (decides_simulated_iff there _ last).mp decided.decides
    have inTime := decided.inTime
    rw [finish] at inTime
    rw [status_at_read first] at shows
    split at shows
    · have late := stuck shows
      omega
    · exact hidden shows
  obtain ⟨_, seen, value, ends, _, _, _, lastSeen⟩ := run_of_not_decidedBy never
  refine ⟨value.trans ?_, ends⟩
  congr 2
  cases seen with
  | none =>
    have late := lastSeen 0
    rw [finish] at late
    omega
  | some status =>
    obtain ⟨j, inTime, late, answer⟩ := lastSeen
    have next := late (j + 1) (Nat.lt_succ_self j)
    rw [finish] at inTime next
    have same : n ≤ w.timeout ↔ n ≤ j * w.pause := by
      constructor
      · intro le
        obtain ⟨k, rfl⟩ := first.exists_eq_mul
        have before : k * w.pause < (j + 1) * w.pause := by omega
        exact Nat.mul_le_mul_right _ (Nat.lt_succ_iff.mp (Nat.lt_of_mul_lt_mul_right before))
      · intro le
        omega
    simp only [reads_simulated there, Except.ok.injEq] at answer
    rw [← answer, status_at_read first]
    simp only [same]

omit first

/-- What a wait comes to that starts at `clock` and reads the status every `gap` milliseconds of an
interface in the state `s`: the status that shows if it is the expected one, the settled one if that
is and if a read finds it in time, and otherwise a timeout. -/
def ClosedForm (w : Wait) (gap settleTime : Nat) (s : InterfaceState) (clock : Nat)
    (out : Outcome Interfaces (Except Fault OperStatus)) : Prop :=
  let shown := s.status settleTime clock
  ∃ n, FirstOnGrid gap (s.window settleTime clock) n ∧
    (out.value, out.clock) =
      if shown = w.expected then (.ok w.expected, clock)
      else if s.settled = w.expected ∧ n ≤ w.timeout then (.ok w.expected, clock + n)
      else
        (.error (w.expired (some (if n ≤ w.timeout then s.settled else shown))), clock + w.timeout)

theorem closedForm_of_known (there : interfaces w.interface = some s) :
    w.ClosedForm w.pause t.settleTime.toNat s clock (w.run t.device clock interfaces) := by
  obtain ⟨n, first⟩ := exists_firstOnGrid w.pause_pos (s.window t.settleTime.toNat clock)
  refine ⟨n, first, ?_⟩
  split
  · next shown =>
    obtain ⟨value, ends⟩ := run_of_shown there shown
    rw [value, ends]
  · next hidden =>
    split
    · next settles =>
      obtain ⟨value, ends⟩ := run_of_settles first there hidden settles.1 settles.2
      rw [value, ends]
    · next stuck =>
      have late : s.settled = w.expected → w.timeout < n := fun settles =>
        Nat.not_le.mp fun inTime => stuck ⟨settles, inTime⟩
      obtain ⟨value, ends⟩ := run_of_stuck first there hidden late
      rw [value, ends]

/-- After any session a wait on a declared interface comes to what the interface's state says: what
it shows, what it settles to and when its window ends. The wait changes no interface. -/
theorem run_closedForm (t : Topology) {w : Wait} (declared : t.declares w.interface = true)
    (positive : 1 ≤ w.poll) (requests : List Request) (start : Nat) :
    let before := t.device.serveAll requests start t.boot
    let out := w.run t.device before.clock before.state
    ∃ s, before.state w.interface = some s ∧
      (t.device.operStatus w.interface before.clock before.state).answer =
        .ok (s.status t.settleTime.toNat before.clock) ∧
      w.ClosedForm (min w.poll longestPause) t.settleTime.toNat s before.clock out ∧
      out.state = before.state := by
  intro before out
  obtain ⟨spec, -, boot⟩ := t.boot_of_declares declared
  have there : before.state w.interface = some (.after { enabled := spec.enabled }
      t.settleTime.toNat (t.device.writesTo w.interface requests start t.boot)) :=
    Topology.state_serveAll_at start boot requests
  refine ⟨_, there, ?_, ?_, t.keeps_wait w before.clock before.state⟩
  · rw [Topology.operStatus_simulated before.clock there]
  · rw [← pause_eq_min positive]
    exact closedForm_of_known there

/-- A topology with one enabled interface, and the session in which that is disabled. -/
def lingering : Topology where
  name := "dut"
  model := "model"
  vendor := .cisco
  interfaces := [{ name := "i" }]
  settleTime := 10

def disabling : List Request := [.replace { name := "i", enabled := false }]

/-- The wait goes on for two more milliseconds when the interface has settled. -/
theorem run_closedForm_of_lingering :
    let w : Wait := { interface := "i", expected := .down, timeout := 12, poll := 4 }
    let before := lingering.device.serveAll disabling 0 lingering.boot
    let out := w.run lingering.device before.clock before.state
    lingering.declares w.interface = true ∧ 1 ≤ w.poll ∧ out.value = .ok .down ∧
      out.clock = 12 := by
  intro w before out
  have declared : lingering.declares w.interface = true := by decide
  have positive : 1 ≤ w.poll := by decide
  obtain ⟨s, there, -, ⟨n, first, ends⟩, -⟩ :=
    run_closedForm lingering declared positive disabling 0
  obtain rfl : { enabled := false, previous := .up, changedAt := some 0 } = s :=
    Option.some.inj there
  have grid : FirstOnGrid (min w.poll longestPause) 10 12 :=
    firstOnGrid_of_between (k := 2) (by decide) (by decide)
  obtain rfl : n = 12 := first.unique grid
  obtain ⟨value, clock⟩ := Prod.mk.inj ends
  exact ⟨declared, positive, value, clock⟩

/-- Where the poll interval is longer than the longest pause, a read comes earlier than it says, and
the wait ends well where it should time out. -/
theorem not_closedForm_beyond_longestPause :
    let w : Wait :=
      { interface := "i", expected := .down, timeout := longestPause, poll := longestPause + 1 }
    let before := lingering.device.serveAll disabling 0 lingering.boot
    let out := w.run lingering.device before.clock before.state
    lingering.declares w.interface = true ∧ 1 ≤ w.poll ∧
    ∃ s, before.state w.interface = some s ∧
      ¬ w.ClosedForm w.poll lingering.settleTime.toNat s before.clock out := by
  intro w before out
  let s : InterfaceState := { enabled := false, previous := .up, changedAt := some 0 }
  have there : before.state w.interface = some s := rfl
  refine ⟨by decide, Nat.le_add_left 1 longestPause, s, there, fun claimed => ?_⟩
  have actual : w.ClosedForm w.pause lingering.settleTime.toNat s before.clock out :=
    closedForm_of_known there
  obtain ⟨n, late, timesOut⟩ := claimed
  obtain rfl : n = (0 + 1) * w.poll :=
    late.unique (firstOnGrid_of_between (by decide) (by decide))
  obtain ⟨n, early, settles⟩ := actual
  obtain rfl : n = (0 + 1) * w.pause :=
    early.unique (firstOnGrid_of_between (by decide) (by decide))
  cases congrArg Prod.fst (timesOut.symm.trans settles)

end Wait
end OpticsCheck
