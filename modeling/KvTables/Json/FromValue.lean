import KvTables.Reading.Source

/-! Reading from a JSON value. -/

set_option autoImplicit false

namespace KvTables.Json

def found : Json → Found
  | .null => .null
  | .bool value => .bool value
  | .num value => value.found
  | .str text => .text text
  | .arr _ => .list
  | .obj _ => .mapping

variable {α : Type}

def unexpected (json : Json) (expected : String) : Reading α :=
  Reading.mismatch (.wrongType json.found expected)

def itemsOf (items : List Json) : Items Json where
  elements := items
  past := pure ()
  surplus taken :=
    if taken < items.length then
      Reading.mismatch (.wrongLength items.length "fewer elements in array")
    else pure ()

def entriesOf (fields : List (String × Json)) : Entries Json where
  pairs := fields.map fun field => (.str field.1, field.2)
  past := pure ()

def parts (expected : String) : Json → Reading (Parts Json)
  | .arr items => pure (.items (itemsOf items))
  | .obj fields => pure (.entries (entriesOf fields))
  | json => json.unexpected expected

def unit : Json → Reading Unit
  | .null => pure ()
  | json => json.unexpected "unit"

def choice : Json → Reading (Choice Json)
  | .str text => pure (Choice.ofText (pure (.text text)))
  | .obj [(name, payload)] => pure {
      name := pure (.text name)
      bare := payload.unit
      payload := pure payload
      close := pure () }
  | .obj _ => Reading.mismatch (.wrongValue .mapping "map with a single key")
  | json => json.unexpected "string or map"

instance : Source Json where
  place _ reading := reading
  text expected
    | .str text => pure text
    | json => json.unexpected expected
  name expected
    | .str text => pure (.text text)
    | json => json.unexpected expected
  flag
    | .bool value => pure value
    | json => json.unexpected "a boolean"
  count
    | .num value => value.count
    | json => json.unexpected "u64"
  optional
    | .null => pure none
    | json => pure (some json)
  items expected
    | .arr items => pure (itemsOf items)
    | json => json.unexpected expected
  entries expected
    | .obj fields => pure (entriesOf fields)
    | json => json.unexpected expected
  record := parts
  tagged := parts
  choice json visit := do visit (← json.choice)
  skip _ := pure ()
  json := pure
  buffer _ json := pure (Buffer.ofJson json)

end KvTables.Json
