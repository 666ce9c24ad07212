import OpticsCheck.Device.Basic

/-!
# Scripted devices

A device whose answers are written out beforehand. Status reads and writes each take the next
element of a list, whatever the interface, and the last element over and over; all other answers
are fixed. Its state counts the status reads and the writes made so far.
-/

namespace OpticsCheck

/-- A status read's answer and how many milliseconds it takes, up to the longest pause. -/
structure ScriptedRead where
  answer : Except Fault OperStatus
  delay : Nat := 0

structure Script where
  name : String
  model : String
  vendor : Vendor
  ports : List (String × String)
  transceivers : Except Fault (List String)
  mfgNames : List (String × Except Fault (Option String))
  inputPowers : List (String × Except Fault (List Binary64))
  outputPowers : List (String × Except Fault (List Binary64))
  biasCurrents : List (String × Except Fault (List Binary64))
  reads : List ScriptedRead
  writes : List (Except Fault Unit)

structure Script.Progress where
  reads : Nat := 0
  writes : Nat := 0
deriving DecidableEq, Repr

namespace Script

/-- The element for a count of those already taken; the last one repeats. -/
def nth? {α : Type} (elements : List α) (taken : Nat) : Option α :=
  elements[taken]? <|> elements.getLast?

def answerFor {α : Type} (answers : List (String × Except Fault α)) (component : String) :
    Except Fault α :=
  (answers.lookup component).getD (.error (.unknownComponent component))

def leaf (script : Script) : Leaf → List (String × Except Fault (List Binary64))
  | .inputPower => script.inputPowers
  | .outputPower => script.outputPowers
  | .biasCurrent => script.biasCurrents

def device (script : Script) : Device Progress where
  name := script.name
  model := script.model
  vendor := script.vendor
  port id := match script.ports.lookup id with
    | some interface => .ok interface
    | none => .error (.unknownPort id)
  find _ := fun _ progress => { answer := script.transceivers, state := progress }
  mfgName component := fun _ progress =>
    { answer := answerFor script.mfgNames component, state := progress }
  samples leaf component := fun _ progress =>
    { answer := answerFor (script.leaf leaf) component, state := progress }
  operStatus interface := fun _ progress =>
    let read := (nth? script.reads progress.reads).getD
      { answer := .error (.unknownInterface interface) }
    { answer := read.answer
      state := { progress with reads := progress.reads + 1 }
      delay := min read.delay longestPause }
  replace config := fun _ progress =>
    { answer := (nth? script.writes progress.writes).getD (.error (.unknownInterface config.name))
      state := { progress with writes := progress.writes + 1 } }

end Script
end OpticsCheck
