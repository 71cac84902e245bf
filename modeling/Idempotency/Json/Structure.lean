import Idempotency.Json.Reader

/-!
# `Idempotency.Json.Structure`: reading values with named fields

A structure is written as an object with a member per field, in any order, or
as a list of its fields in the order in which they are declared. Reading fills
a draft, field by field, and then turns the draft into the value.

A member that is no field is passed over, unless the structure is closed. A
field given twice is refused when its name is met again, before its value is
looked at. A list may end early only if the structure has a default for every
field.
-/

set_option autoImplicit false

namespace Idempotency.Json

open Idempotency.Text (Symbol)

/-- A field of a structure with drafts `σ`: its name, whether a draft has it
already, and how its value is read into a draft. -/
structure Field (σ : Type) where
  name : String
  isGiven : σ → Bool
  read : σ → Reader σ

/-- A description of a structure. `title` names it in refusals, `blank` is the
draft to start from, and `finish` makes the value. -/
structure Structure (σ α : Type) where
  title : String
  fields : List (Field σ)
  blank : σ
  finish : σ → Except Error α
  closed : Bool
  defaulted : Bool

/-- A field whose value goes into the draft by `set`. -/
def Field.of {σ β : Type} (name : String) (get : σ → Option β) (set : σ → β → σ)
    (read : Reader β) : Field σ where
  name := name
  isGiven draft := (get draft).isSome
  read draft input := (read input).map fun (value, rest) => (set draft value, rest)

/-- A value that has to be there. -/
def required {β : Type} (name : String) : Option β → Except Error β
  | some value => .ok value
  | none => .error (.missingField name)

namespace Structure

variable {σ α : Type} (s : Structure σ α)

/-- What a list with too few elements should have been. -/
def asList : String :=
  s.title ++ " with " ++ String.ofList (Decimal.decimal s.fields.length) ++ " elements"

/-- Reads members into a draft. Every round takes at least one symbol. -/
def membersInto : Nat → Bool → σ → Reader σ
  | 0, _, _, _ => .error .endInObject
  | rounds + 1, first, draft, input => do
    match ← nextName first input with
    | none => .ok (draft, input)
    | some (name, input) =>
      match s.fields.find? (·.name == name) with
      | some field =>
        if field.isGiven draft then .error (.duplicateField name)
        else do
          let input ← readColon input
          let (draft, input) ← field.read draft input
          membersInto rounds false draft input
      | none =>
        if s.closed then .error (.unknownField name (s.fields.map (·.name)))
        else do
          let input ← readColon input
          let input ← skip input
          membersInto rounds false draft input

/-- Reads the elements of a list into a draft, one for each field left.
`count` is how many there were before. -/
def elementsInto : List (Field σ) → Nat → σ → Reader σ
  | [], _, draft, input => .ok (draft, input)
  | field :: fields, count, draft, input => do
    match ← nextItem (count == 0) input with
    | some input => do
      let (draft, input) ← field.read draft input
      elementsInto fields (count + 1) draft input
    | none => if s.defaulted then .ok (draft, input) else .error (.tooShort count s.asList)

/-- Reads a value of the structure. -/
def read : Reader α := fun input => do
  match ← front input with
  | (.map, rest) => do
    let (draft, rest) ← s.membersInto (rest.length + 1) true s.blank rest
    -- A missing field is found out before the closing bracket is.
    let value ← s.finish draft
    let rest ← closeObject rest
    .ok (value, rest)
  | (.sequence, rest) => do
    let (draft, rest) ← s.elementsInto s.fields 0 s.blank rest
    let value ← s.finish draft
    let rest ← closeList rest
    .ok (value, rest)
  | (found, _) => .error (.wrongType found s.title)

end Structure

end Idempotency.Json
