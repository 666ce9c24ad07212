import OpticsCheck.Device.Fault

/-!
# Command-line arguments

The grammar of the arguments: a subcommand with options, of which the flags for quietness and the
banner may also stand before it. An option's value is taken when the next argument is not an option
itself, and is looked at only when the argument after it has been recognised; so an unknown
argument is reported before a value that makes no sense.
-/

namespace OpticsCheck

/-- Why arguments give nothing to do. -/
inductive Usage where
  | displayHelp
  | missingArgumentOrSubcommand
  | missingSubcommand
  | invalidSubcommand
  | unknownArgument
  | missingRequiredArgument
  | invalidValue
  | valueValidation
  | argumentConflict
  | tooManyValues
deriving DecidableEq, Repr

/-- Help that was asked for is no failure. -/
def Usage.exitCode : Usage → Nat
  | .displayHelp => 0
  | _ => 2

namespace Usage

def message : Usage → String
  | .displayHelp => "help was asked for"
  | .missingArgumentOrSubcommand => "nothing to do"
  | .missingSubcommand => "a subcommand is required"
  | .invalidSubcommand => "unrecognized subcommand"
  | .unknownArgument => "unexpected argument"
  | .missingRequiredArgument => "a required argument is missing"
  | .invalidValue => "an option lacks its value"
  | .valueValidation => "an option has an invalid value"
  | .argumentConflict => "an argument was given more than once"
  | .tooManyValues => "a flag takes no value"

def help : String := "\n".intercalate [
  "Optics telemetry checks for a device under test.",
  "",
  "Usage: optics [-q]... [--no-banner] <COMMAND>",
  "",
  "  inventory -t <TOPOLOGY>",
  "  update -t <TOPOLOGY> [-p <PORT>] [--timeout <SECONDS>] [--poll-ms <MILLISECONDS>]",
  "  run -t <TOPOLOGY> [-p <PORT>] [--timeout <SECONDS>] [--poll-ms <MILLISECONDS>]",
  "  resolve <INTERFACE> -v <VENDOR>"]

end Usage

structure UpdateOptions where
  port : String := "port1"
  timeout : Duration := .ofSeconds 120
  poll : Duration := .ofMillis 1000
deriving DecidableEq, Repr

inductive Command where
  | inventory (topology : String)
  | update (topology : String) (options : UpdateOptions)
  | run (topology : String) (options : UpdateOptions)
  | resolve (interface : String) (vendor : Vendor)
deriving DecidableEq, Repr

/-- The topology file that a command reads. -/
def Command.topology? : Command → Option String
  | .inventory topology => some topology
  | .update topology _ => some topology
  | .run topology _ => some topology
  | .resolve _ _ => none

structure Invocation where
  command : Command
  quiet : Nat := 0
  noBanner : Bool := false
deriving DecidableEq, Repr

namespace Arguments

inductive Subcommand where
  | inventory
  | update
  | run
  | resolve
deriving DecidableEq, Repr

def Subcommand.ofName? : String → Option Subcommand
  | "inventory" => some .inventory
  | "i" => some .inventory
  | "update" => some .update
  | "u" => some .update
  | "run" => some .run
  | "r" => some .run
  | "resolve" => some .resolve
  | _ => none

/-- A flag or option, or the one positional argument. -/
inductive Parameter where
  | quiet
  | noBanner
  | help
  | topology
  | port
  | timeout
  | pollMillis
  | vendor
  | interface
deriving DecidableEq, Repr

namespace Parameter

def long? : Parameter → Option String
  | .quiet => some "quiet"
  | .noBanner => some "no-banner"
  | .help => some "help"
  | .topology => some "topology"
  | .port => some "port"
  | .timeout => some "timeout"
  | .pollMillis => some "poll-ms"
  | .vendor => some "vendor"
  | .interface => none

def short? : Parameter → Option Char
  | .quiet => some 'q'
  | .help => some 'h'
  | .topology => some 't'
  | .port => some 'p'
  | .vendor => some 'v'
  | _ => none

def isFlag : Parameter → Bool
  | .quiet => true
  | .noBanner => true
  | .help => true
  | _ => false

end Parameter

/-- The flags that may stand before and behind a subcommand. -/
def flags : List Parameter := [.quiet, .noBanner, .help]

def Subcommand.parameters : Subcommand → List Parameter
  | .inventory => flags ++ [.topology]
  | .update => flags ++ [.topology, .port, .timeout, .pollMillis]
  | .run => flags ++ [.topology, .port, .timeout, .pollMillis]
  | .resolve => flags ++ [.vendor]

/-- What was given so far, before a subcommand or behind it. -/
structure Given where
  quiet : Option Nat := none
  noBanner : Bool := false
  topology : Option String := none
  port : Option String := none
  timeout : Option Nat := none
  pollMillis : Option Nat := none
  vendor : Option Vendor := none
  interface : Option String := none
  /-- The parameter named last, with its value once that was given; it is not looked at yet. -/
  pending : Option (Parameter × Option String) := none
  /-- Whether only positional arguments follow. -/
  trailing : Bool := false
deriving DecidableEq, Repr

/-- A natural number below `2 ^ 64`, with an optional plus sign. -/
def word64? (text : String) : Option Nat :=
  let digits := match text.toList with
    | '+' :: rest => rest
    | cs => cs
  if digits ≠ [] ∧ digits.all Char.isDigit then
    let n := digits.foldl (fun n d => n * 10 + (d.toNat - '0'.toNat)) 0
    if n < UInt64.size then some n else none
  else none

namespace Given

/-- Takes in a value, once. -/
def keep {α : Type} (held : Option α) (value : Except Usage α) : Except Usage (Option α) :=
  if held.isSome then .error .argumentConflict else some <$> value

def number (text : String) : Except Usage Nat :=
  match word64? text with
  | some n => .ok n
  | none => .error .valueValidation

def store (given : Given) (parameter : Parameter) (value : String) : Except Usage Given :=
  match parameter with
  | .topology => do
    let path := if value.isEmpty then .error .invalidValue else .ok value
    return { given with topology := ← keep given.topology path }
  | .port => do return { given with port := ← keep given.port (.ok value) }
  | .timeout => do return { given with timeout := ← keep given.timeout (number value) }
  | .pollMillis => do return { given with pollMillis := ← keep given.pollMillis (number value) }
  | .vendor => do
    let vendor := match Vendor.ofText? value with
      | some vendor => .ok vendor
      | none => .error .valueValidation
    return { given with vendor := ← keep given.vendor vendor }
  | .interface => do return { given with interface := ← keep given.interface (.ok value) }
  | _ => .ok given

/-- Looks at what is pending. -/
def settle (given : Given) : Except Usage Given :=
  match given.pending with
  | none => .ok given
  | some (_, none) => .error .invalidValue
  | some (parameter, some value) => { given with pending := none }.store parameter value

/-- Raises a flag. Quietness counts up to 255. -/
def raise (given : Given) : Parameter → Except Usage Given
  | .quiet => .ok { given with quiet := some (min 255 (given.quiet.getD 0 + 1)) }
  | .noBanner =>
    if given.noBanner then .error .argumentConflict else .ok { given with noBanner := true }
  | .help => .error .displayHelp
  | _ => .ok given

/-- A parameter that takes a value, with the value attached to it if there is one. -/
def name (given : Given) (parameter : Parameter) (attached : Option String) :
    Except Usage Given := do
  let given ← given.settle
  match attached with
  | some value => given.store parameter value
  | none => return { given with pending := some (parameter, none) }

/-- An argument that starts with two dashes, from behind them. -/
def long (parameters : List Parameter) (given : Given) (text : List Char) : Except Usage Given :=
  let name := String.ofList (text.takeWhile (· ≠ '='))
  let attached := match text.dropWhile (· ≠ '=') with
    | [] => none
    | _ :: value => some (String.ofList value)
  match parameters.find? (·.long? = some name) with
  | none => .error .unknownArgument
  | some parameter =>
    if parameter.isFlag then
      if attached.isSome then .error .tooManyValues
      else do (← given.settle).raise parameter
    else given.name parameter attached

/-- Letters behind a single dash: flags, up to a letter that takes the rest as its value. -/
def short (parameters : List Parameter) (given : Given) : List Char → Except Usage Given
  | [] => .ok given
  | letter :: rest =>
    match parameters.find? (·.short? = some letter) with
    | none => .error .unknownArgument
    | some parameter =>
      if parameter.isFlag then
        match given.settle with
        | .error usage => .error usage
        | .ok settled => match settled.raise parameter with
          | .error usage => .error usage
          | .ok raised => short parameters raised rest
      else given.name parameter (match rest with
        | [] => none
        | '=' :: value => some (String.ofList value)
        | value => some (String.ofList value))

/-- Whether a parameter waits for the value that may come as the next argument. -/
def awaitsValue? (given : Given) : Option Parameter :=
  match given.pending with
  | some (parameter, none) => some parameter
  | _ => none

/-- An argument that is no option: the value of the parameter named before it, or positional. -/
def plain (positional : Given → String → Except Usage Given) (given : Given) (text : String) :
    Except Usage Given :=
  match given.awaitsValue? with
  | some parameter => .ok { given with pending := some (parameter, some text) }
  | none => positional given text

/-- Takes in one argument. -/
def argument (parameters : List Parameter) (positional : Given → String → Except Usage Given)
    (given : Given) (text : String) : Except Usage Given :=
  if given.trailing then positional given text
  else match text.toList with
    | ['-', '-'] => .ok { given with trailing := true }
    | '-' :: '-' :: rest => given.long parameters rest
    | '-' :: c :: rest => given.short parameters (c :: rest)
    | _ => given.plain positional text

end Given

def Subcommand.positional (subcommand : Subcommand) (given : Given) (text : String) :
    Except Usage Given :=
  if subcommand = .resolve ∧ given.interface = none
      ∧ given.pending.map (·.1) ≠ some .interface then do
    return { ← given.settle with pending := some (.interface, some text) }
  else .error .unknownArgument

def required {α : Type} (value : Option α) : Except Usage α :=
  match value with
  | some value => .ok value
  | none => .error .missingRequiredArgument

def updateOptions (given : Given) : UpdateOptions :=
  { port := given.port.getD "port1"
    timeout := .ofSeconds (given.timeout.getD 120)
    poll := .ofMillis (given.pollMillis.getD 1000) }

def Subcommand.command (given : Given) : Subcommand → Except Usage Command
  | .inventory => do return .inventory (← required given.topology)
  | .update => do return .update (← required given.topology) (updateOptions given)
  | .run => do return .run (← required given.topology) (updateOptions given)
  | .resolve => do
    let interface ← required given.interface
    return .resolve interface (← required given.vendor)

/-- Help for a subcommand, of which there is one level. -/
def helpOn : List String → Usage
  | [] => .displayHelp
  | [name] =>
    if name = "help" ∨ (Subcommand.ofName? name).isSome then .displayHelp else .invalidSubcommand
  | _ => .invalidSubcommand

/-- The arguments behind a subcommand; flags given there win over those before it. -/
def parseBehind (before : Given) (subcommand : Subcommand) (args : List String) :
    Except Usage Invocation := do
  let given ← args.foldlM (Given.argument subcommand.parameters subcommand.positional) {}
  let given ← given.settle
  let command ← subcommand.command given
  return {
    command
    quiet := (given.quiet <|> before.quiet).getD 0
    noBanner := given.noBanner || before.noBanner }

/-- A word before any subcommand that names none. -/
def strayWord (given : Given) (text : String) : Except Usage Given :=
  if given.trailing ∧ (text = "help" ∨ (Subcommand.ofName? text).isSome) then
    .error .unknownArgument
  else .error .invalidSubcommand

def parseFrom (given : Given) : List String → Except Usage Invocation
  | [] =>
    if given.quiet.isNone ∧ !given.noBanner then .error .missingArgumentOrSubcommand
    else .error .missingSubcommand
  | text :: rest =>
    match if given.trailing then none else Subcommand.ofName? text with
    | some subcommand => parseBehind given subcommand rest
    | none =>
      if !given.trailing ∧ text = "help" then .error (helpOn rest)
      else match given.argument flags strayWord text with
        | .error usage => .error usage
        | .ok given => parseFrom given rest

/-- Reads all arguments, without the program's name. -/
def parse (args : List String) : Except Usage Invocation := parseFrom {} args

end Arguments
end OpticsCheck
