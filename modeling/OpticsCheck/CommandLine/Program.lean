import OpticsCheck.Check.All
import OpticsCheck.CommandLine.Arguments
import OpticsCheck.CommandLine.Files
import OpticsCheck.Device.Simulator
import OpticsCheck.Log.Filter
import OpticsCheck.Terminal.Results
import OpticsCheck.Topology.Document

/-!
# The program

What an invocation comes to, given what reading a file gives: the events it logs, among them all
lines that it prints, and the failure it ends in, if any. The topology is read after the banner and
the header were printed. A check that did not pass is a failure, and its results are shown before.
-/

namespace OpticsCheck

/-- Why an invocation failed, and what caused that. -/
structure Failure where
  message : String
  cause : Option String := none
deriving DecidableEq, Repr

/-- The text of a failure; each line of its cause is indented. -/
def Failure.text (failure : Failure) : String :=
  let cause := match failure.cause with
    | none => []
    | some cause => ["", "Caused by:"] ++
      (cause.toList.splitOn '\n').map fun line => "    " ++ String.ofList line
  "\n".intercalate (("Error: " ++ failure.message) :: cause)

structure Ending where
  events : List Event
  failure : Option Failure := none

namespace Ending

def exitCode (ending : Ending) : Nat := if ending.failure.isSome then 1 else 0

/-- The lines printed and logged, as far as they pass. -/
def output (ending : Ending) (filter : Filter) : List String := shown filter ending.events

end Ending

/-- The naming of a transceiver, or only its name when very quiet. -/
def resolution (coloured : Bool) (keyWidth : Nat) (interface : String) (vendor : Vendor)
    (quiet : Nat) : Except Fault (List String) := do
  let name ← transceiverName interface vendor
  if 1 < quiet then return [name]
  else return [
    Line.aligned keyWidth "Interface" (.text Line.plainText interface),
    Line.aligned keyWidth "Vendor" (.text Line.plainText vendor.keyword),
    Line.aligned keyWidth "Transceiver"
      (.text { colour := .green, bold := true } (Text.quoted name))].map (·.render coloured)

/-- The title of the header that precedes a command's own lines. -/
def Command.title? : Command → Option String
  | .inventory _ => some "transceiver inventory"
  | .update _ _ => some "optics power update"
  | .run _ _ => some "running all optics checks"
  | .resolve _ _ => none

namespace Invocation

def printed (lines : List String) : List Event := lines.map fun text => ⟨.info, .print, text⟩

/-- The banner and the header. -/
def opening (invocation : Invocation) : List String :=
  let header := match invocation.command.title? with
    | some title => Line.headerLines title invocation.quiet
    | none => []
  (Line.bannerLines invocation.noBanner invocation.quiet ++ header).map (Styled.render false)

def load (read : String → Except ReadFailure String) (path : String) : Except Failure Topology :=
  match read path with
  | .error failure => .error ⟨"reading topology file " ++ path, some failure.message⟩
  | .ok text => match Topology.ofDocument text with
    | .error refusal => .error ⟨"parsing topology file " ++ path, some refusal.message⟩
    | .ok topology => .ok topology

def config (options : UpdateOptions) : PowerUpdate.Config :=
  { port := options.port, timeout := options.timeout.millis, poll := options.poll.millis }

/-- The checks of a command against the device that a topology describes, and their results. -/
def checked (quiet : Nat) (topology : Topology) (run : Run Interfaces SuiteReport) : Ending :=
  let outcome := run 0 topology.boot
  { events := outcome.events ++ printed (Results.lines false outcome.value ⟨0⟩ quiet)
    failure := (Results.failure? outcome.value).map fun message => { message } }

def check (read : String → Except ReadFailure String) (quiet : Nat) (path : String)
    (checks : Device Interfaces → Run Interfaces SuiteReport) : Ending :=
  match load read path with
  | .error failure => { events := [], failure }
  | .ok topology => checked quiet topology (checks topology.device)

def work (read : String → Except ReadFailure String) (quiet : Nat) : Command → Ending
  | .inventory path => check read quiet path fun dut => do
    return SuiteReport.push {} (← Inventory.check dut)
  | .update path options => check read quiet path fun dut =>
    PowerUpdate.check dut (config options) PowerUpdate.Case.defaults
  | .run path options => check read quiet path fun dut => runAll dut (config options)
  | .resolve interface vendor =>
    match resolution false Line.defaultKeyWidth interface vendor quiet with
    | .error fault => { events := [], failure := some { message := fault.message } }
    | .ok lines => { events := printed lines }

def perform (invocation : Invocation) (read : String → Except ReadFailure String) : Ending :=
  let ending := work read invocation.quiet invocation.command
  { ending with events := printed invocation.opening ++ ending.events }

end Invocation
end OpticsCheck
