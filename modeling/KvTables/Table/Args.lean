import KvTables.Reading.Record
import KvTables.Table.DType

/-! Arguments of table construction that every backend shares. -/

set_option autoImplicit false

namespace KvTables

/-- The value found under keys that a table lacks. A symbolic one names a tensor of a graph that has
not run yet, so that its contents cannot be read. -/
inductive DefaultValue where
  | concrete (value : Json.Value)
  | symbolic (tensor : String)

namespace DefaultValue

def isEager : DefaultValue → Bool
  | .concrete _ => true
  | .symbolic _ => false

def toValue : DefaultValue → Except Failure Json.Value
  | .concrete value => .ok value
  | .symbolic tensor => .error (.notEager (.value tensor))

def toJson : DefaultValue → Json
  | .concrete value => .obj [("concrete", value.json)]
  | .symbolic tensor => .obj [("symbolic", .str tensor)]

variable {ν : Type} [Source ν]

def readConcrete (value : ν) : Reading DefaultValue := do
  return .concrete (.ofJson (← Source.json value))

def readSymbolic (value : ν) : Reading DefaultValue := do
  return .symbolic (← Source.text "a string" value)

def read : ν → Reading DefaultValue :=
  Reading.withPayload [("concrete", readConcrete), ("symbolic", readSymbolic)]

end DefaultValue

/-- Only the element types have to be given. -/
structure TableArgs where
  keyDType : DType
  valueDType : DType
  defaultValue : Option DefaultValue
  name : Option String
  checkpoint : Option Bool
  initSize : Option UInt64

namespace TableArgs

def ofTypes (keyDType valueDType : DType) : TableArgs :=
  ⟨keyDType, valueDType, none, none, none, none⟩

def withoutInitSize (args : TableArgs) : TableArgs := { args with initSize := none }

def displayName (args : TableArgs) : String := args.name.getD "<unnamed>"

def toJson (args : TableArgs) : Json :=
  .obj ([("key_dtype", args.keyDType.toJson), ("value_dtype", args.valueDType.toJson)] ++
    Json.field "default_value" (args.defaultValue.map DefaultValue.toJson) ++
    Json.field "name" (args.name.map .str) ++
    Json.field "checkpoint" (args.checkpoint.map .bool) ++
    Json.field "init_size" (args.initSize.map fun size => .num (.ofCount size)))

inductive Field where
  | keyDType | valueDType | defaultValue | name | checkpoint | initSize
  deriving DecidableEq, Repr

def Field.Value : Field → Type
  | .keyDType | .valueDType => DType
  | .defaultValue => Option DefaultValue
  | .name => Option String
  | .checkpoint => Option Bool
  | .initSize => Option UInt64

def shape : Shape Field Field.Value where
  title := "struct TableArgs"
  fields := [.keyDType, .valueDType, .defaultValue, .name, .checkpoint, .initSize]
  complete field := by cases field <;> decide
  name
    | .keyDType => "key_dtype"
    | .valueDType => "value_dtype"
    | .defaultValue => "default_value"
    | .name => "name"
    | .checkpoint => "checkpoint"
    | .initSize => "init_size"
  aliases _ := []
  absent
    | .keyDType | .valueDType => none
    | .defaultValue => some none
    | .name => some none
    | .checkpoint => some none
    | .initSize => some none

variable {ν : Type} [Source ν]

def readField : (field : Field) → ν → Reading field.Value
  | .keyDType | .valueDType => DType.read
  | .defaultValue => Reading.optional DefaultValue.read
  | .name => Reading.optional (Source.text "a string")
  | .checkpoint => Reading.optional Source.flag
  | .initSize => Reading.optional Source.count

def read (value : ν) : Reading TableArgs := do
  let fields ← shape.read readField value
  return {
    keyDType := fields .keyDType
    valueDType := fields .valueDType
    defaultValue := fields .defaultValue
    name := fields .name
    checkpoint := fields .checkpoint
    initSize := fields .initSize }

end TableArgs

end KvTables
