import KvTables.Proofs.Recovery.Tagged
import KvTables.Table.Spec

/-! Arguments and descriptions of tables are recovered from what they write. -/

set_option autoImplicit false

namespace KvTables

open Json (Arrangement)

variable {ν : Type} [Source ν] {rendering : Rendering ν} (arrangement : Arrangement)

theorem DType.reads (dtype : DType) :
    rendering.Reads DType.read (arrangement.apply dtype.toJson) dtype := by
  rw [DType.toJson, arrangement.apply_str]
  apply Rendering.Reads.bare
  cases dtype <;> rfl

namespace DefaultValue

theorem reads_concrete (value : Json.Value) :
    rendering.Reads readConcrete value.json (.concrete value) := by
  have payload : rendering.Reads readConcrete value.json (.concrete (.ofJson value.json)) :=
    (Rendering.Reads.json value.json).map fun json => DefaultValue.concrete (.ofJson json)
  rw [value.ofJson_json] at payload
  exact payload

theorem reads (value : DefaultValue) :
    rendering.Reads read (arrangement.apply value.toJson) value := by
  cases value with
  | concrete value =>
    rw [toJson, arrangement.apply_single, arrangement.apply_of_canonical value.canonical]
    exact Rendering.Reads.withPayload rfl (reads_concrete value)
  | symbolic tensor =>
    have payload : rendering.Reads readSymbolic (.str tensor) (.symbolic tensor) :=
      (Rendering.Reads.text tensor "a string").map DefaultValue.symbolic
    rw [toJson, arrangement.apply_single, arrangement.apply_str]
    exact Rendering.Reads.withPayload rfl payload

theorem apply_toJson_ne_null (value : DefaultValue) : arrangement.apply value.toJson ≠ .null := by
  cases value <;> exact arrangement.apply_obj_ne_null _

end DefaultValue

namespace TableArgs

theorem named : shape.Named where
  distinct := by decide
  found field := by cases field <;> rfl

def written (args : TableArgs) : Field → Option Json
  | .keyDType => some args.keyDType.toJson
  | .valueDType => some args.valueDType.toJson
  | .defaultValue => args.defaultValue.map DefaultValue.toJson
  | .name => args.name.map .str
  | .checkpoint => args.checkpoint.map .bool
  | .initSize => args.initSize.map fun size => .num (.ofCount size)

def slots (args : TableArgs) : (field : Field) → field.Value
  | .keyDType => args.keyDType
  | .valueDType => args.valueDType
  | .defaultValue => args.defaultValue
  | .name => args.name
  | .checkpoint => args.checkpoint
  | .initSize => args.initSize

theorem toJson_eq_layout (args : TableArgs) : args.toJson = .obj (shape.layout args.written) := by
  simp [toJson, Shape.layout, shape, written, Json.field]

theorem reads_field (args : TableArgs) (field : Field) (json : Json)
    (given : args.written field = some json) :
    rendering.Reads (readField field) (arrangement.apply json) (args.slots field) := by
  cases field with
  | keyDType =>
    obtain rfl := Option.some.inj given
    exact args.keyDType.reads arrangement
  | valueDType =>
    obtain rfl := Option.some.inj given
    exact args.valueDType.reads arrangement
  | defaultValue =>
    exact Rendering.Reads.optionalField given (DefaultValue.reads arrangement)
      (DefaultValue.apply_toJson_ne_null arrangement)
  | name =>
    exact Rendering.Reads.optionalText arrangement _ given
  | checkpoint =>
    exact Rendering.Reads.optionalField given
      (fun flag => by rw [arrangement.apply_bool]; exact Rendering.Reads.flag flag)
      (fun flag => by rw [arrangement.apply_bool]; exact Json.noConfusion)
  | initSize =>
    exact Rendering.Reads.optionalField given
      (fun size => by rw [arrangement.apply_num]; exact Rendering.Reads.count size)
      (fun size => by rw [arrangement.apply_num]; exact Json.noConfusion)

theorem absent_field (args : TableArgs) (field : Field) (none : args.written field = none) :
    shape.absent field = some (args.slots field) := by
  cases field with
  | keyDType | valueDType => cases none
  | _ => exact congrArg some (Option.map_eq_none_iff.1 none).symm

theorem reads (args : TableArgs) :
    rendering.Reads read (arrangement.apply args.toJson) args := by
  rw [toJson_eq_layout]
  exact (Shape.reads_arranged named arrangement (reads_field arrangement args)
    (absent_field args)).map fun slots => TableArgs.mk (slots .keyDType) (slots .valueDType)
      (slots .defaultValue) (slots .name) (slots .checkpoint) (slots .initSize)

end TableArgs

namespace TableSpec

theorem named : shape.Named where
  distinct := by decide
  found field := by cases field <;> rfl

def written (spec : TableSpec) : Field → Option Json
  | .backend => some spec.backend.toJson
  | .args => some spec.args.toJson
  | .config => spec.config.map Backend.Config.toJson

def slots (spec : TableSpec) : (field : Field) → field.Value
  | .backend => spec.backend
  | .args => spec.args
  | .config => spec.config

theorem toJson_eq_layout (spec : TableSpec) : spec.toJson = .obj (shape.layout spec.written) := by
  simp [toJson, Shape.layout, shape, written, Json.field]

theorem reads_field (spec : TableSpec) (field : Field) (json : Json)
    (given : spec.written field = some json) :
    rendering.Reads (readField field) (arrangement.apply json) (spec.slots field) := by
  cases field with
  | backend =>
    obtain rfl := Option.some.inj given
    exact spec.backend.reads arrangement
  | args =>
    obtain rfl := Option.some.inj given
    exact spec.args.reads arrangement
  | config =>
    exact Rendering.Reads.optionalField given (Backend.Config.reads arrangement)
      fun config => arrangement.apply_obj_ne_null config.toFields

theorem absent_field (spec : TableSpec) (field : Field) (none : spec.written field = none) :
    shape.absent field = some (spec.slots field) := by
  cases field with
  | config => exact congrArg some (Option.map_eq_none_iff.1 none).symm
  | _ => cases none

theorem reads (spec : TableSpec) :
    rendering.Reads read (arrangement.apply spec.toJson) spec := by
  rw [toJson_eq_layout]
  exact (Shape.reads_arranged named arrangement (reads_field arrangement spec)
    (absent_field spec)).map fun slots =>
      TableSpec.mk (slots .backend) (slots .args) (slots .config)

end TableSpec

end KvTables
