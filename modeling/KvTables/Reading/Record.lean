import KvTables.Reading.Source

/-! Records read from any source.

A keyed record may give its fields in any order and with others among them, each at most once. A
positional one gives them in declared order. What is left out takes the value stated for it.
-/

set_option autoImplicit false

namespace KvTables

/-- The form of a record whose fields are the members of `F`. -/
structure Shape (F : Type) (Value : F → Type) where
  title : String
  fields : List F
  complete : ∀ field, field ∈ fields
  name : F → String
  aliases : F → List String
  /-- The value of a field left out, unless it has to be given. -/
  absent : (field : F) → Option (Value field)

def Slots {F : Type} (Value : F → Type) : Type := (field : F) → Option (Value field)

namespace Slots

variable {F : Type} {Value : F → Type}

def empty : Slots Value := fun _ => none

def fill [DecidableEq F] (slots : Slots Value) (field : F) (value : Value field) : Slots Value :=
  fun other => if same : field = other then some (same ▸ value) else slots other

end Slots

namespace Shape

variable {F : Type} [DecidableEq F] {Value : F → Type} {ν : Type} [Source ν]

def find? (shape : Shape F Value) : Name → Option F
  | .text text => shape.fields.find? fun field =>
      shape.name field == text || (shape.aliases field).contains text
  | .index index => shape.fields[index]?

def withDefaults (shape : Shape F Value) (slots : Slots Value) : Slots Value :=
  fun field => (slots field).or (shape.absent field)

/-- All fields of a record, or the first in declared order that is missing. -/
def close (shape : Shape F Value) (slots : Slots Value) :
    Except Mismatch ((field : F) → Value field) :=
  let filled := shape.withDefaults slots
  match found : shape.fields.find? fun field => (filled field).isNone with
  | some field => .error (.missingField (shape.name field))
  | none => .ok fun field => (filled field).get (by
      have := List.find?_eq_none.1 found field (shape.complete field)
      simpa [← Option.isSome_iff_ne_none] using this)

/-- Read the fields of a keyed record in the order they are written. -/
def readPairs (shape : Shape F Value) (readField : (field : F) → ν → Reading (Value field)) :
    List (ν × ν) → Slots Value → Reading (Slots Value)
  | [], slots => pure slots
  | (key, value) :: rest, slots => do
    match shape.find? (← Source.name "field identifier" key) with
    | none =>
      Source.skip value
      shape.readPairs readField rest slots
    | some field =>
      -- A second value is refused before it is read.
      if (slots field).isSome then Reading.mismatch (.duplicateField (shape.name field))
      else
        let read ← readField field value
        shape.readPairs readField rest (slots.fill field read)

/-- Read the fields of a positional record, of which `index` have been read. -/
def readItems (shape : Shape F Value) (readField : (field : F) → ν → Reading (Value field))
    (past : Reading Unit) (index : Nat) :
    List F → List ν → Slots Value → Reading (Slots Value)
  | [], _, slots => pure slots
  | field :: fields, element :: rest, slots => do
    let read ← readField field element
    shape.readItems readField past (index + 1) fields rest (slots.fill field read)
  | field :: fields, [], slots => do
    past
    -- The list is over, which only fields with a value of their own survive.
    match shape.absent field with
    | some value => shape.readItems readField past (index + 1) fields [] (slots.fill field value)
    | none =>
      Reading.mismatch (.wrongLength index
        (shape.title ++ " with " ++ countOf shape.fields.length "element"))

def readParts (shape : Shape F Value) (readField : (field : F) → ν → Reading (Value field)) :
    Parts ν → Reading ((field : F) → Value field)
  | .entries entries => do
    let slots ← shape.readPairs readField entries.pairs Slots.empty
    entries.past
    match shape.close slots with
    | .ok values => pure values
    | .error cause => Reading.mismatch cause
  | .items items => do
    let slots ← shape.readItems readField items.past 0 shape.fields items.elements Slots.empty
    items.surplus shape.fields.length
    match shape.close slots with
    | .ok values => pure values
    | .error cause => Reading.mismatch cause

def read (shape : Shape F Value) (readField : (field : F) → ν → Reading (Value field))
    (value : ν) : Reading ((field : F) → Value field) :=
  Source.place value do
    shape.readParts readField (← Source.record shape.title value)

end Shape

end KvTables
