import OpticsCheck.CommandLine.Program

/-!
# The command line

Reads the arguments, the environment and the topology file, and prints what the invocation comes to.
-/

namespace OpticsCheck

/-- Codes of system errors come with either sign. -/
def isCode (code number : UInt32) : Bool := code = number || code = 0 - number

def ReadFailure.ofError : IO.Error → ReadFailure
  | .noFileOrDirectory _ _ _ => .missing
  | .permissionDenied _ _ _ => .denied
  | .inappropriateType _ code details =>
    if isCode code 20 then .throughFile
    else if isCode code 21 then .directory
    else .other details
  | .invalidArgument _ code details => if isCode code 36 then .nameTooLong else .other details
  | error => .other (toString error)

def readFile (path : String) : IO (Except ReadFailure String) := do
  match ← (IO.FS.readBinFile path).toBaseIO with
  | .error error => return .error (.ofError error)
  | .ok bytes => match String.fromUTF8? bytes with
    | some text => return .ok text
    | none => return .error .notText

def execute (invocation : Invocation) : IO UInt32 := do
  let contents ← match invocation.command.topology? with
    | some path => readFile path
    | none => pure (.error .missing)
  let filter := Filter.choose (← IO.getEnv "RUST_LOG") invocation.quiet
  let ending := invocation.perform fun _ => contents
  for line in ending.output filter do
    IO.println line
  if let some failure := ending.failure then IO.eprintln failure.text
  return UInt32.ofNat ending.exitCode

end OpticsCheck

open OpticsCheck in
def main (args : List String) : IO UInt32 := do
  match Arguments.parse args with
  | .ok invocation => execute invocation
  | .error .displayHelp =>
    IO.println Usage.help
    return 0
  | .error usage =>
    IO.eprintln ("error: " ++ usage.message ++ "\n\n" ++ Usage.help)
    return UInt32.ofNat usage.exitCode
