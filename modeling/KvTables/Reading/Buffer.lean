import KvTables.Json.Basic

/-! Values kept aside until their form is known.

A buffer can hold everything that JSON and YAML can write, YAML's keys and special numbers included.
-/

set_option autoImplicit false

namespace KvTables

inductive Buffer where
  | null
  | bool (value : Bool)
  | num (value : Json.Number)
  /-- The integer zero, written with a minus sign. -/
  | minusZero
  | nonFinite (value : Decimal.NonFinite)
  | text (value : String)
  | list (items : List Buffer)
  | mapping (pairs : List (Buffer × Buffer))
  deriving Repr

instance : Inhabited Buffer := ⟨.null⟩

namespace Buffer

mutual

def ofJson : Json → Buffer
  | .null => .null
  | .bool value => .bool value
  | .num value => .num value
  | .str content => .text content
  | .arr items => .list (ofItems items)
  | .obj fields => .mapping (ofFields fields)

def ofItems : List Json → List Buffer
  | [] => []
  | item :: rest => ofJson item :: ofItems rest

def ofFields : List (String × Json) → List (Buffer × Buffer)
  | [] => []
  | (key, value) :: rest => (.text key, ofJson value) :: ofFields rest

end

end Buffer

end KvTables
