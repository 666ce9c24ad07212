import OpticsCheck.Proofs.Run.Waiting
import OpticsCheck.Run.Request

/-!
# Sessions in time

What holds of every call of a session, of its waits and of the time that passes between them holds
of the whole session. The writes to one interface are picked out of a session with the times they
are made at, which never decrease.
-/

namespace OpticsCheck

/-- The clock does not run backwards. -/
def Stretch.Forward {τ : Type} : Stretch τ := fun clock _ _ clock' _ => clock ≤ clock'

theorem Stretch.forward_composes {τ : Type} : (Forward : Stretch τ).Composes where
  empty clock _ := Nat.le_refl clock
  append first second := Nat.le_trans first second

theorem Run.Along.forward_call {σ α : Type} (name : Call) (query : Query σ α) :
    Run.Along .Forward (Run.call name query) :=
  .call name fun _ _ => Nat.le_add_right _ _

/-- An admin state written to an interface, and when. -/
structure Write where
  time : Nat
  enabled : Bool
deriving DecidableEq, Repr

/-- What a request made now writes to the interface called `name`. -/
def Request.writeTo? (name : String) (now : Nat) : Request → Option Write
  | .replace config => if config.name = name then some ⟨now, config.enabled⟩ else none
  | _ => none

theorem Request.time_of_mem_writeTo? {name : String} {now : Nat} {request : Request} {w : Write}
    (made : w ∈ request.writeTo? name now) : w.time = now := by
  unfold writeTo? at made
  split at made
  · split at made
    · cases made
      rfl
    · cases made
  · cases made

namespace Device

variable {σ : Type} (dut : Device σ)

/-- Reading all leaves keeps what each of the reads keeps. -/
theorem along_runReadings {R : Stretch σ} (composes : R.Composes) (component : String)
    (samples : ∀ leaf, Run.Along R (dut.runSamples leaf component)) :
    Run.Along R (dut.runReadings component) := by
  refine .bind composes (samples .inputPower) fun inputs => ?_
  cases inputs with
  | error fault => exact .pure composes _
  | ok inputs =>
    refine .bind composes (samples .outputPower) fun outputs => ?_
    cases outputs with
    | error fault => exact .pure composes _
    | ok outputs =>
      refine .bind composes (samples .biasCurrent) fun currents => ?_
      cases currents with
      | error fault => exact .pure composes _
      | ok currents => exact .pure composes _

/-- A request keeps what its calls, its wait and the passing of time keep. -/
theorem along_serve {R : Stretch σ} (composes : R.Composes) (request : Request)
    (find : ∀ kind, Run.Along R (dut.runFind kind))
    (mfgName : ∀ component, Run.Along R (dut.runMfgName component))
    (samples : ∀ leaf component, Run.Along R (dut.runSamples leaf component))
    (status : ∀ interface, Run.Along R (dut.runStatus interface))
    (replace : ∀ config, request = .replace config → Run.Along R (dut.runReplace config))
    (wait : ∀ w : Wait, Run.Along R (w.run dut))
    (advance : ∀ millis, Run.Along R (Run.advance millis)) : Run.Along R (dut.serve request) := by
  have answered {α β : Type} {run : Run σ α} (along : Run.Along R run) (f : α → β) :
      Run.Along R (run >>= fun value => pure (f value)) :=
    .bind composes along fun value => .pure composes (f value)
  cases request with
  | identity => exact .pure composes _
  | port id => exact .pure composes _
  | find kind => exact answered (find kind) _
  | mfgName component => exact answered (mfgName component) _
  | samples leaf component => exact answered (samples leaf component) _
  | readings component =>
    exact answered (dut.along_runReadings composes component fun leaf => samples leaf component) _
  | status interface => exact answered (status interface) _
  | replace config => exact answered (replace config rfl) _
  | await w => exact answered (wait w) _
  | advance millis => exact answered (advance millis) _

theorem forward_serve (request : Request) : Run.Along .Forward (dut.serve request) :=
  dut.along_serve Stretch.forward_composes request
    (fun _ => Run.Along.forward_call _ _) (fun _ => Run.Along.forward_call _ _)
    (fun _ _ => Run.Along.forward_call _ _) (fun _ => Run.Along.forward_call _ _)
    (fun _ _ => Run.Along.forward_call _ _)
    (fun w => w.along_run dut Stretch.forward_composes
      (fun _ _ _ later _ => later) (fun _ _ _ _ later => later))
    (fun _ _ _ => Nat.le_add_right _ _)

theorem forward_serveAll (requests : List Request) : Run.Along .Forward (dut.serveAll requests) :=
  .mapM Stretch.forward_composes fun request _ => dut.forward_serve request

/-- The writes of a session to the interface called `name`, in order. -/
def writesTo (name : String) : List Request → Nat → σ → List Write
  | [], _, _ => []
  | request :: rest, clock, state =>
    let out := dut.serve request clock state
    (request.writeTo? name clock).toList ++ writesTo name rest out.clock out.state

theorem serveAll_cons (request : Request) (rest : List Request) :
    dut.serveAll (request :: rest) = do
      let answer ← dut.serve request
      let answers ← dut.serveAll rest
      return answer :: answers := by
  simp only [serveAll, List.mapM_cons]

/-- A session in two parts is the first part and then the second. -/
theorem serveAll_append (first second : List Request) :
    dut.serveAll (first ++ second) = do
      let answers ← dut.serveAll first
      let later ← dut.serveAll second
      return answers ++ later := by
  simp only [serveAll, List.mapM_append]

section Append

variable (first second : List Request) (clock : Nat) (state : σ)

theorem value_serveAll_append :
    let left := dut.serveAll first clock state
    (dut.serveAll (first ++ second) clock state).value =
      left.value ++ (dut.serveAll second left.clock left.state).value := by
  rw [serveAll_append]
  simp only [bind_pure_comp, Run.value_bind, Run.value_map]

theorem clock_serveAll_append :
    let left := dut.serveAll first clock state
    (dut.serveAll (first ++ second) clock state).clock =
      (dut.serveAll second left.clock left.state).clock := by
  rw [serveAll_append]
  simp only [bind_pure_comp, Run.clock_bind, Run.clock_map]

theorem state_serveAll_append :
    let left := dut.serveAll first clock state
    (dut.serveAll (first ++ second) clock state).state =
      (dut.serveAll second left.clock left.state).state := by
  rw [serveAll_append]
  simp only [bind_pure_comp, Run.state_bind, Run.state_map]

end Append

variable (name : String) (requests : List Request) (clock : Nat) (state : σ)

theorem time_of_mem_writesTo {w : Write} (made : w ∈ dut.writesTo name requests clock state) :
    clock ≤ w.time ∧ w.time ≤ (dut.serveAll requests clock state).clock := by
  induction requests generalizing clock state with
  | nil => cases made
  | cons request rest ih =>
    have begun := dut.forward_serve request clock state
    have later := dut.forward_serveAll rest (dut.serve request clock state).clock
      (dut.serve request clock state).state
    simp only [Stretch.Forward] at begun later
    rw [serveAll_cons]
    simp only [bind_pure_comp, Run.clock_bind, Run.clock_map]
    rcases List.mem_append.mp made with now | afterwards
    · have := Request.time_of_mem_writeTo? (Option.mem_toList.mp now)
      omega
    · have := ih _ _ afterwards
      omega

/-- Writes are made one after the other. -/
theorem writesTo_sorted : (dut.writesTo name requests clock state).Pairwise (·.time ≤ ·.time) := by
  induction requests generalizing clock state with
  | nil => exact .nil
  | cons request rest ih =>
    have begun := dut.forward_serve request clock state
    simp only [Stretch.Forward] at begun
    refine List.pairwise_append.mpr ⟨?_, ih _ _, fun w now v afterwards => ?_⟩
    · cases request.writeTo? name clock with
      | none => exact .nil
      | some w => exact List.pairwise_singleton _ w
    · have first := Request.time_of_mem_writeTo? (Option.mem_toList.mp now)
      have second := dut.time_of_mem_writesTo name rest _ _ afterwards
      omega

variable {name requests} in
/-- Where none of the requests writes to the interface, there are no writes to it. -/
theorem writesTo_eq_nil
    (spared : ∀ config, Request.replace config ∈ requests → config.name ≠ name) :
    dut.writesTo name requests clock state = [] := by
  induction requests generalizing clock state with
  | nil => rfl
  | cons request rest ih =>
    have none : request.writeTo? name clock = none := by
      cases request with
      | replace config => exact if_neg (spared config List.mem_cons_self)
      | _ => rfl
    rw [writesTo, none]
    exact ih _ _ fun config mem => spared config (List.mem_cons_of_mem request mem)

end Device
end OpticsCheck
