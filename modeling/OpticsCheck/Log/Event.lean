import OpticsCheck.Text.Quoted

/-!
# Log events

What a run reports while it goes on. An event has a level and the target it is filed under; as a
line it shows a symbol for its level and its message. Controls that a terminal would act upon are
escaped in messages, line breaks and tabs are not. What is printed for the user is filed under a
target of its own and shows as it is.
-/

namespace OpticsCheck

inductive Level where
  | error
  | warn
  | info
  | debug
  | trace
deriving DecidableEq, Repr

namespace Level

/-- How much is logged when a level is let through: at each level all before it. -/
def verbosity : Level → Nat
  | .error => 1
  | .warn => 2
  | .info => 3
  | .debug => 4
  | .trace => 5

def symbol : Level → String
  | .error => "[-]"
  | .warn => "[*]"
  | .info => "[+]"
  | .debug => "[?]"
  | .trace => "[ ]"

end Level

/-- The targets that events are filed under. -/
inductive Target where
  | report
  | wait
  | simulator
  | checks
  | print
deriving DecidableEq, Repr

/-- The path that a filter names a target by. -/
def Target.path : Target → String
  | .report => "optics_common::report"
  | .wait => "optics_common::ports"
  | .simulator => "optics_core::simulator"
  | .checks => "optics_core::checks"
  | .print => "optics::print"

/-- The field that holds the text of an event filed under a target. -/
def Target.field : Target → String
  | .print => "raw_msg"
  | _ => "message"

/-- Whether events filed under a target are logged by a check that is under way. -/
def Target.duringCheck : Target → Bool
  | .print => false
  | _ => true

structure Event where
  level : Level
  target : Target
  message : String
deriving DecidableEq, Repr

/-- A control that terminals act upon is shown by its code. -/
def loggedChar (c : Char) : List Char :=
  if c = '\x1b' then ['\\', 'x', '1', 'b']
  else if c = '\x07' then ['\\', 'x', '0', '7']
  else if c = '\x08' then ['\\', 'x', '0', '8']
  else if c = '\x0c' then ['\\', 'x', '0', 'c']
  else if c = '\x7f' then ['\\', 'x', '7', 'f']
  else if 0x80 ≤ c.toNat ∧ c.toNat < 0xA0 then Text.codeEscape c
  else [c]

def Event.text (event : Event) : String :=
  if event.target = .print then event.message
  else event.level.symbol ++ " " ++ String.ofList (event.message.toList.flatMap loggedChar)

end OpticsCheck
