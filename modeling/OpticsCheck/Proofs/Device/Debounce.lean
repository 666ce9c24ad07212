import Mathlib.Data.List.Induction
import OpticsCheck.Proofs.Device.Simulated

/-!
# The status follows the writes late

An interface of the simulated device keeps one earlier status and the time of its last change. That
is enough to answer as if it remembered all its writes: the status is that of the last change of the
admin state that lasted for the settle time, whatever happened in between.
-/

namespace OpticsCheck

namespace Write

/-- The admin state after writes to an interface that has the state `boot` before them. -/
def admin (boot : Bool) (writes : List Write) : Bool := (writes.getLast?.map (·.enabled)).getD boot

/-- The writes that change the admin state. -/
def flips (boot : Bool) : List Write → List Write
  | [] => []
  | w :: rest => if w.enabled = boot then flips boot rest else w :: flips w.enabled rest

/-- The flips that last for the settle time, each up to the next one and the last one until now. -/
def lasting (settleTime : Nat) (flips : List Write) (now : Nat) : List Write :=
  ((flips.zip (flips.tail.map (·.time) ++ [now])).filter fun (flip, ends) =>
    flip.time + settleTime ≤ ends).map (·.1)

/-- The admin state that shows: the one that the last lasting flip set. -/
def shown (settleTime : Nat) (boot : Bool) (flips : List Write) (now : Nat) : Bool :=
  admin boot (lasting settleTime flips now)

theorem admin_append (boot : Bool) (writes : List Write) (w : Write) :
    admin boot (writes ++ [w]) = w.enabled := by
  simp [admin]

theorem admin_cons (boot : Bool) (w : Write) (rest : List Write) :
    admin boot (w :: rest) = admin w.enabled rest := by
  cases rest with
  | nil => rfl
  | cons v rest => simp [admin, List.getLast?_cons]

theorem flips_append (boot : Bool) (writes : List Write) (w : Write) :
    flips boot (writes ++ [w]) =
      flips boot writes ++ if w.enabled = admin boot writes then [] else [w] := by
  induction writes generalizing boot with
  | nil => rfl
  | cons v rest ih =>
    rw [admin_cons]
    by_cases same : v.enabled = boot
    · simpa [flips, same] using ih boot
    · simpa [flips, same] using ih v.enabled

/-- The writes that change nothing can be left out. -/
theorem admin_flips (boot : Bool) (writes : List Write) :
    admin boot (flips boot writes) = admin boot writes := by
  induction writes generalizing boot with
  | nil => rfl
  | cons w rest ih =>
    rw [admin_cons]
    by_cases same : w.enabled = boot
    · simpa [flips, same] using ih boot
    · simpa [flips, same, admin_cons] using ih w.enabled

theorem flips_sublist (boot : Bool) (writes : List Write) :
    (flips boot writes).Sublist writes := by
  induction writes generalizing boot with
  | nil => exact .slnil
  | cons w rest ih =>
    unfold flips
    split
    · exact .cons w (ih boot)
    · exact .cons_cons w (ih w.enabled)

theorem lasting_append (settleTime : Nat) (flips : List Write) (flip : Write) (now : Nat) :
    lasting settleTime (flips ++ [flip]) now =
      lasting settleTime flips flip.time ++
        if flip.time + settleTime ≤ now then [flip] else [] := by
  have pairs : (flips ++ [flip]).zip ((flips ++ [flip]).tail.map (·.time) ++ [now]) =
      flips.zip (flips.tail.map (·.time) ++ [flip.time]) ++ [(flip, now)] := by
    cases flips with
    | nil => rfl
    | cons first rest =>
      have ends : ((first :: rest ++ [flip]).tail.map (·.time) ++ [now]) =
          (rest.map (·.time) ++ [flip.time]) ++ [now] := by
        simp
      rw [ends, List.zip_append (by simp)]
      rfl
  unfold lasting
  rw [pairs, List.filter_append, List.map_append]
  by_cases lasts : flip.time + settleTime ≤ now <;> simp [lasts]

/-- A flip shows once it has lasted; until then what shows is what showed when it was made. -/
theorem shown_append (settleTime : Nat) (boot : Bool) (flips : List Write) (flip : Write)
    (now : Nat) :
    shown settleTime boot (flips ++ [flip]) now =
      if flip.time + settleTime ≤ now then flip.enabled
      else shown settleTime boot flips flip.time := by
  unfold shown
  rw [lasting_append]
  split
  · exact admin_append _ _ _
  · rw [List.append_nil]

/-- Once all flips have lasted, the admin state shows. -/
theorem shown_of_lasted {settleTime now : Nat} (boot : Bool) {flips : List Write}
    (lasted : ∀ flip ∈ flips, flip.time + settleTime ≤ now) :
    shown settleTime boot flips now = admin boot flips := by
  rcases List.eq_nil_or_concat flips with rfl | ⟨before, flip, rfl⟩
  · rfl
  · have last := lasted flip (by simp)
    rw [List.concat_eq_append, shown_append, if_pos last, admin_append]

end Write

/-- An interface that keeps one earlier status answers as if it kept all its flips. -/
theorem InterfaceState.after_boot (settleTime : Nat) (boot : Bool) (writes : List Write) :
    let s := InterfaceState.after { enabled := boot } settleTime writes
    s.enabled = Write.admin boot writes ∧
      ∀ now, s.status settleTime now =
        .ofEnabled (Write.shown settleTime boot (Write.flips boot writes) now) := by
  induction writes using List.reverseRecOn with
  | nil => exact ⟨rfl, fun _ => rfl⟩
  | append_singleton writes w ih =>
    obtain ⟨enabled, status⟩ := ih
    rw [after_append, Write.admin_append, Write.flips_append]
    constructor
    · exact enabled_set _ _ _ _
    · intro now
      by_cases same : w.enabled = Write.admin boot writes
      · have kept := set_of_same (enabled.trans same.symm) settleTime w.time
        rw [if_pos same, List.append_nil]
        exact (congrArg (·.status settleTime now) kept).trans (status now)
      · -- the status shown at this flip is the one that the law gives for the writes before it
        have changed := status_set_of_flip (enabled.trans_ne (Ne.symm same)) settleTime w.time now
        rw [if_neg same, Write.shown_append]
        refine changed.trans ?_
        rw [status]
        by_cases lasts : w.time + settleTime ≤ now
        · rw [if_pos lasts, if_neg (Nat.not_lt.mpr lasts)]
        · rw [if_neg lasts, if_pos (Nat.not_le.mp lasts)]

/-- The last write shows once it has lasted, whatever was written before it. -/
theorem InterfaceState.status_of_last_write (settleTime : Nat) (boot : Bool) {writes : List Write}
    {w : Write} (earlier : ∀ v ∈ writes, v.time ≤ w.time) {now : Nat}
    (lasted : w.time + settleTime ≤ now) :
    ((after { enabled := boot } settleTime writes).set settleTime w.time w.enabled).status
      settleTime now = .ofEnabled w.enabled := by
  have law := (after_boot settleTime boot (writes ++ [w])).2 now
  rw [after_append, Write.shown_of_lasted, Write.admin_flips, Write.admin_append] at law
  · exact law
  · intro flip mem
    rcases List.mem_append.mp ((Write.flips_sublist _ _).subset mem) with before | last
    · have := earlier flip before
      omega
    · obtain rfl := List.mem_singleton.mp last
      exact lasted

namespace Topology

/-- The debounce law. In any session with the simulated device the status of a declared interface
is that of the last flip of its admin state that lasted for the settle time, and of the interface's
last declaration while none did. A flip undone within the settle time is never seen, and what is no
flip of the interface changes nothing about it. -/
theorem status_debounced (t : Topology) {name : String} (declared : t.declares name = true) :
    ∃ spec, (t.interfaces.filter (·.name = name)).getLast? = some spec ∧
      ∀ (requests : List Request) (start : Nat),
        let settleTime := t.settleTime.toNat
        let answer (now : Nat) (state : Interfaces) :=
          (t.device.serve (.status name) now state).value
        let write (enabled : Bool) (now : Nat) (state : Interfaces) :=
          (t.device.serve (.replace { name, enabled }) now state).state
        let out := t.device.serveAll requests start t.boot
        let writes := t.device.writesTo name requests start t.boot
        let admin := Write.admin spec.enabled writes
        let flips := Write.flips spec.enabled writes
        (flips.Pairwise (·.time ≤ ·.time) ∧
          ∀ flip ∈ flips, start ≤ flip.time ∧ flip.time ≤ out.clock) ∧
        (∀ now, answer now out.state =
          .ok (.status (.ofEnabled (Write.shown settleTime spec.enabled flips now)))) ∧
        (∀ now undone later, undone < now + settleTime →
          let flipped := write (!admin) now out.state
          answer undone flipped = answer now out.state ∧
          answer later (write admin undone flipped) =
            if later < undone + settleTime then answer now out.state
            else .ok (.status (.ofEnabled admin))) ∧
        ∀ request,
          (∀ enabled, request = .replace { name, enabled } → enabled = admin) →
          ∀ now later,
            answer later (t.device.serve request now out.state).state = answer later out.state := by
  obtain ⟨spec, last, boot⟩ := t.boot_of_declares declared
  refine ⟨spec, last, fun requests start => ?_⟩
  intro settleTime answer write out writes admin flips
  have kept : flips.Sublist writes := Write.flips_sublist _ _
  have there : out.state name = some (.after { enabled := spec.enabled } settleTime writes) :=
    state_serveAll_at start boot requests
  obtain ⟨enabled, status⟩ := InterfaceState.after_boot settleTime spec.enabled writes
  generalize InterfaceState.after { enabled := spec.enabled } settleTime writes = s at *
  replace enabled : s.enabled = admin := enabled
  have answers {state : Interfaces} {s : InterfaceState} (there : state name = some s) (now : Nat) :
      answer now state = .ok (.status (s.status settleTime now)) := value_serve_status now there
  have written {state : Interfaces} {s : InterfaceState} (there : state name = some s)
      (enabled : Bool) (now : Nat) :
      write enabled now state name = some (s.set settleTime now enabled) :=
    (state_replace now there { name, enabled }).trans (if_pos rfl)
  refine ⟨⟨?_, ?_⟩, ?_, ?_, ?_⟩
  · exact (t.device.writesTo_sorted name requests start t.boot).sublist kept
  · intro flip mem
    exact t.device.time_of_mem_writesTo name requests start t.boot (kept.subset mem)
  · intro now
    rw [answers there, status]
  · intro now undone later early
    have flipped := written there (!admin) now
    obtain ⟨unseen, settles⟩ := s.status_of_undone early later
    rw [enabled] at unseen settles
    rw [answers there]
    constructor
    · rw [← unseen]
      exact answers flipped undone
    · refine (answers (written flipped admin undone) later).trans ?_
      rw [settles, InterfaceState.settled, enabled]
      split <;> rfl
  · intro request noFlip now later
    have same : (t.device.serve request now out.state).state name = some s :=
      state_serve_of_no_flip now there fun _ is => (noFlip _ is).trans enabled.symm
    rw [answers there, answers same]

/-- The interface is declared twice, disabled at last. Its first two flips are undone, and the third
one overlaps with their settle time. -/
theorem status_debounced_of_redeclared :
    let t : Topology :=
      { name := "dut", model := "model", vendor := .cisco, settleTime := 10
        interfaces := [{ name := "i" }, { name := "i", enabled := false }] }
    let requests : List Request :=
      [.replace { name := "i" }, .advance 4, .replace { name := "i", enabled := false },
        .advance 3, .replace { name := "i" }]
    let out := t.device.serveAll requests 0 t.boot
    t.declares "i" = true ∧
    (t.device.serve (.status "i") 16 out.state).value = .ok (.status .down) ∧
    (t.device.serve (.status "i") 17 out.state).value = .ok (.status .up) := by
  intro t requests out
  have declared : t.declares "i" = true := by decide
  obtain ⟨spec, last, law⟩ := t.status_debounced declared
  obtain rfl : { name := "i", enabled := false } = spec := Option.some.inj last
  obtain ⟨_, answers, _⟩ := law requests 0
  exact ⟨declared, answers 16, answers 17⟩

end Topology
end OpticsCheck
