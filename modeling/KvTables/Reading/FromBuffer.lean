import KvTables.Reading.Source

/-! Reading from a value kept aside.

Names may be given by position here, and a list has to have exactly as many elements as are read.
-/

set_option autoImplicit false

namespace KvTables.Buffer

def found : Buffer → Found
  | .null => .null
  | .bool value => .bool value
  | .num value => value.found
  | .minusZero => .minusZero
  | .nonFinite value => .nonFinite value
  | .text value => .text value
  | .list _ => .list
  | .mapping _ => .mapping

mutual

/-- A buffer as a JSON tree; numbers that JSON cannot write become null. -/
def toJson : Buffer → Except Mismatch Json
  | .null => .ok .null
  | .bool value => .ok (.bool value)
  | .num value => .ok (.num value)
  | .minusZero => .ok (.num (.ofCount 0))
  | .nonFinite _ => .ok .null
  | .text value => .ok (.str value)
  | .list items => do return .arr (← itemsToJson items)
  | .mapping pairs => do return .obj (← pairsToJson "a string key" pairs)

def itemsToJson : List Buffer → Except Mismatch (List Json)
  | [] => .ok []
  | item :: rest => do
    let json ← item.toJson
    return json :: (← itemsToJson rest)

def pairsToJson (expected : String) : List (Buffer × Buffer) → Except Mismatch (List (String × Json))
  | [] => .ok []
  | (.text key, value) :: rest => do
    let json ← value.toJson
    return (key, json) :: (← pairsToJson "a string" rest)
  | (key, _) :: _ => .error (.wrongType key.found expected)

end

variable {α : Type}

def unexpected (buffer : Buffer) (expected : String) : Reading α :=
  Reading.mismatch (.wrongType buffer.found expected)

def itemsOf (items : List Buffer) : Items Buffer where
  elements := items
  past := pure ()
  surplus taken :=
    if taken < items.length then
      Reading.mismatch (.wrongLength items.length (countOf taken "element" ++ " in sequence"))
    else pure ()

def entriesOf (pairs : List (Buffer × Buffer)) : Entries Buffer where
  pairs := pairs
  past := pure ()

def parts (expected : String) : Buffer → Reading (Parts Buffer)
  | .list items => pure (.items (itemsOf items))
  | .mapping pairs => pure (.entries (entriesOf pairs))
  | buffer => buffer.unexpected expected

def unit : Buffer → Reading Unit
  | .null => pure ()
  | buffer => buffer.unexpected "unit"

def name (expected : String) : Buffer → Reading Name
  | .text value => pure (.text value)
  | .num (.int value _) =>
    if 0 ≤ value then pure (.index value.toNat)
    else Reading.mismatch (.wrongType (.int value) expected)
  | buffer => buffer.unexpected expected

def choice : Buffer → Reading (Choice Buffer)
  | .text value => pure (Choice.ofText (pure (.text value)))
  | .mapping [(key, payload)] => pure {
      name := key.name "variant identifier"
      bare := payload.unit
      payload := pure payload
      close := pure () }
  | .mapping _ => Reading.mismatch (.wrongValue .mapping "map with a single key")
  | buffer => buffer.unexpected "string or map"

instance : Source Buffer where
  place _ reading := reading
  text expected
    | .text value => pure value
    | buffer => buffer.unexpected expected
  name := name
  flag
    | .bool value => pure value
    | buffer => buffer.unexpected "a boolean"
  count
    | .num value => value.count
    | .minusZero => pure 0
    | buffer => buffer.unexpected "u64"
  optional
    | .null => pure none
    | buffer => pure (some buffer)
  items expected
    | .list items => pure (itemsOf items)
    | buffer => buffer.unexpected expected
  entries expected
    | .mapping pairs => pure (entriesOf pairs)
    | buffer => buffer.unexpected expected
  record := parts
  tagged := parts
  choice buffer visit := do visit (← buffer.choice)
  skip _ := pure ()
  json buffer :=
    match buffer.toJson with
    | .ok json => pure json
    | .error cause => Reading.mismatch cause
  buffer _ buffer := pure buffer

end KvTables.Buffer
