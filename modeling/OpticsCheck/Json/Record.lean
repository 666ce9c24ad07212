import OpticsCheck.Json.Shape

/-!
# Records

A record is read from an object, whose fields may come in any order, or from a list of its fields
in their declared order. Unknown fields are skipped, a field given twice is a problem, and so is a
required field that is missing; a list may leave out trailing fields that have a default. While a
record is read, the fields seen so far are collected in a draft.
-/

namespace OpticsCheck.Json

/-- One field of a record: whether a draft has it, and how its value is read into a draft. -/
structure Field (δ : Type) where
  name : String
  required : Bool
  filled : δ → Bool
  read : δ → Reader δ

/-- A field that a draft holds once it was read. -/
def Field.of {δ β : Type} (name : String) (required : Bool) (get : δ → Option β)
    (put : δ → β → δ) (value : Reader β) : Field δ :=
  { name, required
    filled := fun draft => (get draft).isSome
    read := fun draft => do return put draft (← value) }

structure Record (δ α : Type) where
  name : String
  fields : List (Field δ)
  blank : δ
  /-- The record a draft amounts to, once no required field is missing. -/
  complete : δ → Option α

namespace Record

variable {δ α : Type} (r : Record δ α)

def expected : String := "struct " ++ r.name

def expectedLength : String :=
  r.expected ++ " with " ++ String.ofList (digitChars r.fields.length) ++ " elements"

/-- Reads members into the draft, up to the closing brace. -/
def members : (steps : Nat) → (first : Bool) → δ → Reader δ
  | 0, _, draft => return draft
  | steps + 1, first, draft => do
    if ← Reader.moreMembers first then
      let key ← Reader.quotedString
      match r.fields.find? (·.name = key) with
      | none =>
        Reader.colon
        Reader.skipValue
        members steps false draft
      | some field =>
        if field.filled draft then Reader.mismatch (.duplicateField field.name)
        else
          Reader.colon
          members steps false (← field.read draft)
    else return draft

/-- Reads items into the draft's fields in order; `index` fields came before. -/
def elements : (fields : List (Field δ)) → (index : Nat) → δ → Reader δ
  | [], _, draft => return draft
  | field :: rest, index, draft => do
    if ← Reader.moreItems (index = 0) then
      elements rest (index + 1) (← field.read draft)
    else match (field :: rest).findIdx? (·.required) with
      | none => return draft
      | some skipped => Reader.mismatch (.wrongLength (index + skipped) r.expectedLength)

def missing? (draft : δ) : Option (Field δ) :=
  r.fields.find? fun field => field.required && !field.filled draft

def finished (draft : δ) : Reader α :=
  match r.missing? draft with
  | some field => Reader.mismatch (.missingField field.name)
  | none => match r.complete draft with
    | some value => return value
    | none => Reader.mismatch (.missingField r.name)

def read : Reader α :=
  Reader.startingWith
    (fun c =>
      if c = '[' then some do
        Reader.advance
        let value ← r.finished (← r.elements r.fields 0 r.blank)
        Reader.closeList
        return value
      else if c = '\x7b' then some do
        Reader.advance
        let value ← r.finished (← r.members ((← get).length + 1) true r.blank)
        Reader.closeObject
        return value
      else none)
    r.expected

end Record
end OpticsCheck.Json
