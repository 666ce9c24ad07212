import OpticsCheck.Run.Wait

/-!
# Sessions

What a client can ask of a device, one request at a time, as data: look-ups, reads, writes, waits,
and letting time pass. A session is a list of requests, each served where the one before it ended.
-/

namespace OpticsCheck

inductive Request where
  | identity
  | port (id : String)
  | find (kind : ComponentKind)
  | mfgName (component : String)
  | samples (leaf : Leaf) (component : String)
  | readings (component : String)
  | status (interface : String)
  | replace (config : InterfaceConfig)
  | await (wait : Wait)
  | advance (millis : Nat)
deriving DecidableEq, Repr

inductive Answer where
  | identity (name model : String) (vendor : Vendor)
  | port (interface : String)
  | names (names : List String)
  | mfgName (name : Option String)
  | samples (samples : List Binary64)
  | readings (readings : Readings)
  | status (status : OperStatus)
  | done
deriving DecidableEq, Repr

namespace Device

variable {σ : Type}

def serve (dut : Device σ) : Request → Run σ (Except Fault Answer)
  | .identity => pure (.ok (.identity dut.name dut.model dut.vendor))
  | .port id => pure (.port <$> dut.port id)
  | .find kind => do return .names <$> (← dut.runFind kind)
  | .mfgName component => do return .mfgName <$> (← dut.runMfgName component)
  | .samples leaf component => do return .samples <$> (← dut.runSamples leaf component)
  | .readings component => do return .readings <$> (← dut.runReadings component)
  | .status interface => do return .status <$> (← dut.runStatus interface)
  | .replace config => do return (fun _ => .done) <$> (← dut.runReplace config)
  | .await wait => do return .status <$> (← wait.run dut)
  | .advance millis => do
    Run.advance millis
    return .ok .done

def serveAll (dut : Device σ) (requests : List Request) : Run σ (List (Except Fault Answer)) :=
  requests.mapM dut.serve

end Device
end OpticsCheck
