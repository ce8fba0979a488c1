import KvTables.Reading.Source

/-! Choices between named variants, and the compound readings shared by several types. -/

set_option autoImplicit false

namespace KvTables

namespace Reading

variable {α : Type} {ν : Type} [Source ν]

def pick (variants : List (String × α)) : Name → Reading α
  | .text text =>
    match variants.lookup text with
    | some variant => pure variant
    | none => mismatch (.unknownVariant text (variants.map (·.1)))
  | .index index =>
    match variants[index]? with
    | some (_, variant) => pure variant
    | none => mismatch (.wrongValue (.int index) s!"variant index 0 <= i < {variants.length}")

def bare (variants : List (String × α)) (value : ν) : Reading α :=
  Source.choice value fun choice => do
    let variant ← pick variants (← choice.name)
    choice.bare
    choice.close
    pure variant

def withPayload (variants : List (String × (ν → Reading α))) (value : ν) : Reading α :=
  Source.choice value fun choice => do
    let readPayload ← pick variants (← choice.name)
    let variant ← readPayload (← choice.payload)
    choice.close
    pure variant

def optional (read : ν → Reading α) (value : ν) : Reading (Option α) := do
  match ← Source.optional value with
  | none => pure none
  | some given => some <$> read given

def each (read : ν → Reading α) : List ν → Reading (List α)
  | [] => pure []
  | element :: rest => do
    let value ← read element
    return value :: (← each read rest)

def list (read : ν → Reading α) (value : ν) : Reading (List α) :=
  Source.place value do
    let items ← Source.items "a sequence" value
    let elements ← each read items.elements
    items.past
    pure elements

def pairs : List (ν × ν) → Reading (List (String × Json))
  | [] => pure []
  | (key, value) :: rest => do
    let text ← Source.text "a string" key
    let json ← Source.json value
    return (text, json) :: (← pairs rest)

def object (value : ν) : Reading Json.Object :=
  Source.place value do
    let entries ← Source.entries "a map" value
    let fields ← pairs entries.pairs
    entries.past
    pure (Json.Object.ofFields fields)

end Reading

end KvTables
