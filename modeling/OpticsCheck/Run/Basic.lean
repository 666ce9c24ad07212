import OpticsCheck.Device.Basic

/-!
# Runs

A run takes the time and a device's state and gives a value, the time and the state it ends at, and
a trace of the calls it made and the events it logged, in order. Runs compose: the second starts
where the first ends, and the traces follow each other.
-/

namespace OpticsCheck

inductive Mark where
  | called (call : Call)
  | logged (event : Event)
deriving DecidableEq, Repr

def Mark.call? : Mark → Option Call
  | .called call => some call
  | .logged _ => none

def Mark.event? : Mark → Option Event
  | .called _ => none
  | .logged event => some event

structure Outcome (σ α : Type) where
  value : α
  clock : Nat
  state : σ
  trace : List Mark := []

namespace Outcome

variable {σ α : Type}

def calls (outcome : Outcome σ α) : List Call := outcome.trace.filterMap Mark.call?

def events (outcome : Outcome σ α) : List Event := outcome.trace.filterMap Mark.event?

end Outcome

def Run (σ α : Type) : Type := (clock : Nat) → σ → Outcome σ α

namespace Run

variable {σ α β : Type}

def of (value : α) : Run σ α := fun clock state => { value, clock, state }

def andThen (first : Run σ α) (next : α → Run σ β) : Run σ β := fun clock state =>
  let start := first clock state
  let rest := next start.value start.clock start.state
  { rest with trace := start.trace ++ rest.trace }

instance : Monad (Run σ) where
  pure := of
  bind := andThen

theorem pure_apply (value : α) (clock : Nat) (state : σ) :
    (pure value : Run σ α) clock state = { value, clock, state } := rfl

theorem bind_apply (first : Run σ α) (next : α → Run σ β) (clock : Nat) (state : σ) :
    (first >>= next) clock state =
      let start := first clock state
      let rest := next start.value start.clock start.state
      { rest with trace := start.trace ++ rest.trace } := rfl

instance : LawfulMonad (Run σ) := LawfulMonad.mk' _
  (fun run => by
    funext clock state
    simp [Functor.map, andThen, of])
  (fun value next => by
    funext clock state
    simp [bind, pure, andThen, of])
  (fun run next last => by
    funext clock state
    simp [bind, andThen, List.append_assoc])

def log (event : Event) : Run σ Unit := fun clock state =>
  { value := (), clock, state, trace := [.logged event] }

/-- Lets time pass. -/
def advance (millis : Nat) : Run σ Unit := fun clock state =>
  { value := (), clock := clock + millis, state }

/-- Makes a call, which takes as long as the device takes to answer. -/
def call (call : Call) (query : Query σ α) : Run σ (Except Fault α) := fun clock state =>
  let reply := query clock state
  { value := reply.answer
    clock := clock + reply.delay
    state := reply.state
    trace := .called call :: reply.log.map .logged }

end Run

namespace Device

variable {σ : Type}

def runFind (dut : Device σ) (kind : ComponentKind) : Run σ (Except Fault (List String)) :=
  Run.call (.find kind) (dut.find kind)

def runMfgName (dut : Device σ) (component : String) : Run σ (Except Fault (Option String)) :=
  Run.call (.mfgName component) (dut.mfgName component)

def runSamples (dut : Device σ) (leaf : Leaf) (component : String) :
    Run σ (Except Fault (List Binary64)) :=
  Run.call (.samples leaf component) (dut.samples leaf component)

def runStatus (dut : Device σ) (interface : String) : Run σ (Except Fault OperStatus) :=
  Run.call (.operStatus interface) (dut.operStatus interface)

def runReplace (dut : Device σ) (config : InterfaceConfig) : Run σ (Except Fault Unit) :=
  Run.call (.replace config) (dut.replace config)

/-- Reads the leaves of a transceiver one after the other; the first fault ends it. -/
def runReadings (dut : Device σ) (component : String) : Run σ (Except Fault Readings) :=
  ExceptT.run do
    let inputPowers ← ExceptT.mk (dut.runSamples .inputPower component)
    let outputPowers ← ExceptT.mk (dut.runSamples .outputPower component)
    let biasCurrents ← ExceptT.mk (dut.runSamples .biasCurrent component)
    return { inputPowers, outputPowers, biasCurrents }

end Device
end OpticsCheck
