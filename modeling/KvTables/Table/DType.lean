import KvTables.Failure

/-! Element types of table keys and values. -/

set_option autoImplicit false

namespace KvTables

inductive DType where
  | bool
  | int8 | int16 | int32 | int64
  | float16 | float32 | float64
  | string
  deriving DecidableEq, Repr

namespace DType

def name : DType → String
  | .bool => "bool"
  | .int8 => "int8"
  | .int16 => "int16"
  | .int32 => "int32"
  | .int64 => "int64"
  | .float16 => "float16"
  | .float32 => "float32"
  | .float64 => "float64"
  | .string => "string"

def all : List DType :=
  [.bool, .int8, .int16, .int32, .int64, .float16, .float32, .float64, .string]

def aliases : List (String × DType) :=
  [("half", .float16), ("float", .float32), ("double", .float64)]

def named : List (String × DType) := all.map fun dtype => (dtype.name, dtype)

def ofName (name : String) : Except Failure DType :=
  match (named ++ aliases).lookup name with
  | some dtype => .ok dtype
  | none => .error (.invalidArgument (.unknownDType name))

/-- Key types that every engine can look up. -/
def isKeyType : DType → Bool
  | .int32 | .int64 | .string => true
  | _ => false

def toJson (dtype : DType) : Json := .str dtype.name

def read {ν : Type} [Source ν] : ν → Reading DType := Reading.bare named

end DType

end KvTables
