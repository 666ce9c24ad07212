import OpticsCheck.Device.Simulator
import OpticsCheck.Proofs.Run.Session

/-!
# Sessions with the simulated device

Only writes change the simulated device's state, and a write changes the state of one interface.
What a session does to an interface is therefore what its writes to that interface do.
-/

namespace OpticsCheck

namespace InterfaceState

@[simp] theorem enabled_set (s : InterfaceState) (settleTime now : Nat) (enabled : Bool) :
    (s.set settleTime now enabled).enabled = enabled := by
  unfold set
  split
  · assumption
  · rfl

theorem set_of_same {s : InterfaceState} {enabled : Bool} (same : s.enabled = enabled)
    (settleTime now : Nat) : s.set settleTime now enabled = s :=
  if_pos same

/-- An interface whose admin state flips goes on showing what it showed then, until it settles. -/
theorem status_set_of_flip {s : InterfaceState} {enabled : Bool} (flip : s.enabled ≠ enabled)
    (settleTime now later : Nat) :
    (s.set settleTime now enabled).status settleTime later =
      if later < now + settleTime then s.status settleTime now else .ofEnabled enabled := by
  rw [set, if_neg flip]
  rfl

/-- A flip undone before it has lasted is not seen: what showed at the flip goes on showing until
the state from before it settles again. -/
theorem status_of_undone (s : InterfaceState) {settleTime now undone : Nat}
    (early : undone < now + settleTime) (later : Nat) :
    let flipped := s.set settleTime now !s.enabled
    flipped.status settleTime undone = s.status settleTime now ∧
      (flipped.set settleTime undone s.enabled).status settleTime later =
        if later < undone + settleTime then s.status settleTime now else s.settled := by
  intro flipped
  have flip : s.enabled ≠ !s.enabled := by simp
  have back : flipped.enabled ≠ s.enabled := by simp [flipped]
  have unseen : flipped.status settleTime undone = s.status settleTime now := by
    rw [status_set_of_flip flip, if_pos early]
  refine ⟨unseen, ?_⟩
  rw [status_set_of_flip back, unseen]
  rfl

/-- The state after writes, one after the other. -/
def after (s : InterfaceState) (settleTime : Nat) (writes : List Write) : InterfaceState :=
  writes.foldl (fun s w => s.set settleTime w.time w.enabled) s

theorem after_append (s : InterfaceState) (settleTime : Nat) (first second : List Write) :
    s.after settleTime (first ++ second) = (s.after settleTime first).after settleTime second :=
  List.foldl_append

end InterfaceState

/-- The device's state stays as it is. -/
def Stretch.Keeps {σ : Type} : Stretch σ := fun _ before _ _ after => after = before

theorem Stretch.keeps_composes {σ : Type} : (Keeps : Stretch σ).Composes where
  empty _ _ := rfl
  append first second := second.trans first

namespace Topology

variable (t : Topology)

theorem port_eq_ok_iff {id interface : String} :
    t.device.port id = .ok interface ↔ t.ports.get? id = some interface := by
  simp only [device]
  cases t.ports.get? id <;> simp

/-- An interface that is declared starts as it was last declared. -/
theorem boot_of_declares {name : String} (declared : t.declares name = true) :
    ∃ spec, (t.interfaces.filter (·.name = name)).getLast? = some spec ∧
      t.boot name = some { enabled := spec.enabled } := by
  obtain ⟨first, mem, named⟩ := List.any_eq_true.mp declared
  have some : (t.interfaces.filter (·.name = name)).getLast?.isSome := by
    rw [List.getLast?_isSome]
    exact List.ne_nil_of_mem (List.mem_filter.mpr ⟨mem, named⟩)
  obtain ⟨spec, last⟩ := Option.isSome_iff_exists.mp some
  refine ⟨spec, last, ?_⟩
  rw [List.getLast?_filter] at last
  rw [boot, last]
  rfl

theorem keeps_wait (w : Wait) : Run.Along .Keeps (w.run t.device) :=
  w.along_run t.device Stretch.keeps_composes (fun _ _ _ _ _ => rfl) (fun _ _ _ _ _ => rfl)

/-- Requests other than writes leave the whole state alone. -/
theorem state_serve {request : Request} (read : ∀ config, request ≠ .replace config) (clock : Nat)
    (interfaces : Interfaces) :
    (t.device.serve request clock interfaces).state = interfaces :=
  t.device.along_serve Stretch.keeps_composes request (fun _ _ _ => rfl) (fun _ _ _ => rfl)
    (fun _ _ _ _ => rfl) (fun _ _ _ => rfl) (fun config is => absurd is (read config))
    t.keeps_wait (fun _ _ _ => rfl) clock interfaces

variable {t} {interfaces : Interfaces} {name : String} {s : InterfaceState} (clock : Nat)

theorem operStatus_simulated (there : interfaces name = some s) :
    t.device.operStatus name clock interfaces =
      { answer := .ok (s.status t.settleTime.toNat clock), state := interfaces } := by
  simp [device, interface, there]

theorem replace_simulated (there : interfaces name = some s) (enabled : Bool) :
    t.device.replace { name, enabled } clock interfaces =
      { answer := .ok ()
        state := interfaces.put name (s.set t.settleTime.toNat clock enabled)
        log := [if s.enabled = enabled then alreadySet { name, enabled }
          else t.changed { name, enabled }] } := by
  simp [device, replace, interface, there]

/-- A write to one interface leaves the others alone. -/
theorem state_replace (there : interfaces name = some s) (config : InterfaceConfig) :
    (t.replace config clock interfaces).state name =
      if config.name = name then some (s.set t.settleTime.toNat clock config.enabled)
      else some s := by
  by_cases this : config.name = name
  · subst this
    have reply : t.replace config clock interfaces = _ :=
      replace_simulated clock there config.enabled
    simp [reply, Interfaces.put]
  · have other : name ≠ config.name := fun same => this same.symm
    rw [replace]
    split <;> simp [Interfaces.put, this, other, there]

theorem state_serve_at (there : interfaces name = some s) (request : Request) :
    (t.device.serve request clock interfaces).state name =
      some (s.after t.settleTime.toNat (request.writeTo? name clock).toList) := by
  cases request with
  | replace config =>
    refine (state_replace clock there config).trans ?_
    by_cases this : config.name = name <;> simp [Request.writeTo?, InterfaceState.after, this]
  | _ =>
    refine (congrFun (t.state_serve ?_ clock interfaces) name).trans there
    exact fun _ is => by cases is

/-- Neither a request that is no write to the interface nor a write that changes nothing touches
it. -/
theorem state_serve_of_no_flip (there : interfaces name = some s) {request : Request}
    (noFlip : ∀ enabled, request = .replace { name, enabled } → enabled = s.enabled) :
    (t.device.serve request clock interfaces).state name = some s := by
  rw [state_serve_at clock there]
  cases request with
  | replace config =>
    by_cases this : config.name = name
    · subst this
      have same := InterfaceState.set_of_same (noFlip config.enabled rfl).symm
      simp [Request.writeTo?, InterfaceState.after, same]
    · simp [Request.writeTo?, InterfaceState.after, this]
  | _ => rfl

/-- A session does to an interface what its writes to that interface do. -/
theorem state_serveAll_at (there : interfaces name = some s) (requests : List Request) :
    (t.device.serveAll requests clock interfaces).state name =
      some (s.after t.settleTime.toNat (t.device.writesTo name requests clock interfaces)) := by
  induction requests generalizing s clock interfaces with
  | nil => exact there
  | cons request rest ih =>
    rw [Device.serveAll_cons]
    simp only [bind_pure_comp, Run.state_bind, Run.state_map]
    rw [ih _ (state_serve_at clock there request), Device.writesTo, InterfaceState.after_append]

/-- A status read answers from the state of its interface. -/
theorem value_serve_status (there : interfaces name = some s) :
    (t.device.serve (.status name) clock interfaces).value =
      .ok (.status (s.status t.settleTime.toNat clock)) := by
  simp [Device.serve, Device.runStatus, Run.call, operStatus_simulated clock there]

end Topology
end OpticsCheck
