import KvTables.Backend.Document
import KvTables.Backend.RocksDb.Options
import KvTables.Proofs.Reading.Records
import KvTables.Proofs.Reading.Trees

/-! Backend configs are recovered from what they write.

Each type is recovered from its tree in either arrangement and from every source that renders trees.
The form of a config behind a tag or a name is found only among values kept aside; a config that is
written carries its parameters, so no file is asked for.
-/

set_option autoImplicit false

namespace KvTables

open Json (Arrangement)

variable {ν : Type} [Source ν] {rendering : Rendering ν} (arrangement : Arrangement)

namespace Backend

theorem Kind.reads (kind : Kind) :
    rendering.Reads Kind.read (arrangement.apply kind.toJson) kind := by
  rw [Kind.toJson, arrangement.apply_str]
  apply Rendering.Reads.bare
  cases kind <;> rfl

namespace Redis

theorem named : shape.Named where
  distinct := by decide
  found field := by cases field <;> rfl

def written (config : Redis) : Field → Option Json
  | .path => config.path.map .str
  | .envName => config.envName.map .str

def slots (config : Redis) : Field → Option String
  | .path => config.path
  | .envName => config.envName

theorem toFields_eq_layout (config : Redis) : config.toFields = shape.layout config.written := by
  simp [toFields, Shape.layout, shape, written]

theorem nodup_toFields (config : Redis) : (config.toFields.map (·.1)).Nodup := by
  rw [toFields_eq_layout]
  exact named.nodup_layout _

theorem reads_field (config : Redis) (field : Field) (json : Json)
    (given : config.written field = some json) :
    rendering.Reads (readField field) (arrangement.apply json) (config.slots field) := by
  cases field <;> exact Rendering.Reads.optionalText arrangement _ given

theorem absent_field (config : Redis) (field : Field) (none : config.written field = none) :
    shape.absent field = some (config.slots field) := by
  cases field <;> exact congrArg some (Option.map_eq_none_iff.1 none).symm

theorem reads_fields (config : Redis) {fields : List (String × Json)}
    (arranged : fields.Perm (arrangement.applyFields config.toFields)) :
    rendering.Reads read (.obj fields) config := by
  rw [toFields_eq_layout] at arranged
  exact (Shape.reads_arrangedFields named arrangement (reads_field arrangement config)
    (absent_field config) arranged).map fun slots => Redis.mk (slots .path) (slots .envName)

theorem reads (config : Redis) :
    rendering.Reads read (arrangement.apply config.toJson) config := by
  obtain ⟨fields, same, arranged⟩ := arrangement.apply_obj config.nodup_toFields
  rw [toJson, same]
  exact config.reads_fields arrangement arranged

end Redis

namespace RocksDb

theorem named : shape.Named where
  distinct := by decide
  found field := by cases field <;> rfl

def written (config : RocksDb) : Field → Option Json
  | .src => none
  | .params => some config.params.toJson

def slots (config : RocksDb) : (field : Field) → field.Value
  | .src => none
  | .params => some config.params

theorem toFields_eq_layout (config : RocksDb) : config.toFields = shape.layout config.written := by
  simp [toFields, Shape.layout, shape, written, Json.field]

theorem nodup_toFields (config : RocksDb) : (config.toFields.map (·.1)).Nodup := by
  rw [toFields_eq_layout]
  exact named.nodup_layout _

theorem reads_field (config : RocksDb) (field : Field) (json : Json)
    (given : config.written field = some json) :
    rendering.Reads (readField field) (arrangement.apply json) (config.slots field) := by
  cases field with
  | src => cases given
  | params =>
    obtain rfl : config.params.toJson = json := Option.some.inj given
    rw [arrangement.apply_object]
    exact (Rendering.Reads.object config.params).optional Json.noConfusion

theorem absent_field (config : RocksDb) (field : Field) (none : config.written field = none) :
    shape.absent field = some (config.slots field) := by
  cases field with
  | src => rfl
  | params => cases none

theorem consult_params (params : Json.Object) :
    (Reading.consult fun files => (Written.load ⟨none, some params⟩ files).map
      (·.mapError fun failure => .refused failure.message)) = pure ⟨params⟩ := rfl

theorem reads_fields (config : RocksDb) {fields : List (String × Json)}
    (arranged : fields.Perm (arrangement.applyFields config.toFields)) :
    rendering.Reads read (.obj fields) config := by
  rw [toFields_eq_layout] at arranged
  intro level allowed
  have reads : rendering.Reads (shape.read readField) (.obj fields) config.slots :=
    Shape.reads_arrangedFields named arrangement (reads_field arrangement config)
      (absent_field config) arranged
  rw [read, reads level allowed]
  refine Reading.upTo_bind (Nat.le_refl _) fun enough => ?_
  rw [Reading.upTo_of_allows enough]
  -- What is written names no file, so the files are consulted in vain.
  exact consult_params config.params

theorem reads (config : RocksDb) :
    rendering.Reads read (arrangement.apply config.toJson) config := by
  obtain ⟨fields, same, arranged⟩ := arrangement.apply_obj config.nodup_toFields
  rw [toJson, same]
  exact config.reads_fields arrangement arranged

namespace Options

theorem named : shape.Named where
  distinct := by decide
  found field := by cases field <;> rfl

def written (options : Options) : Field → Option Json
  | .databasePath => some (.str options.databasePath)
  | .embeddingName => some (.str options.embeddingName)
  | .readOnly => some (.bool options.readOnly)
  | .estimateSize => some (.bool options.estimateSize)
  | .exportPath => options.exportPath.map .str

def slots (options : Options) : (field : Field) → field.Value
  | .databasePath => options.databasePath
  | .embeddingName => options.embeddingName
  | .readOnly => options.readOnly
  | .estimateSize => options.estimateSize
  | .exportPath => options.exportPath

theorem toJson_eq_layout (options : Options) :
    options.toJson = .obj (shape.layout options.written) := by
  simp [toJson, Shape.layout, shape, written, Json.field]

theorem reads_field (options : Options) (field : Field) (json : Json)
    (given : options.written field = some json) :
    rendering.Reads (readField field) (arrangement.apply json) (options.slots field) := by
  cases field with
  | databasePath | embeddingName =>
    obtain rfl := Option.some.inj given
    rw [arrangement.apply_str]
    exact Rendering.Reads.text _ _
  | readOnly | estimateSize =>
    obtain rfl := Option.some.inj given
    rw [arrangement.apply_bool]
    exact Rendering.Reads.flag _
  | exportPath =>
    exact Rendering.Reads.optionalText arrangement _ given

theorem absent_field (options : Options) (field : Field) (none : options.written field = none) :
    shape.absent field = some (options.slots field) := by
  cases field with
  | exportPath => exact congrArg some (Option.map_eq_none_iff.1 none).symm
  | _ => cases none

theorem reads (options : Options) :
    rendering.Reads read (arrangement.apply options.toJson) options := by
  rw [toJson_eq_layout]
  exact (Shape.reads_arranged named arrangement (reads_field arrangement options)
    (absent_field options)).map fun slots => Options.mk (slots .databasePath)
      (slots .embeddingName) (slots .readOnly) (slots .estimateSize) (slots .exportPath)

end Options

end RocksDb

namespace Cuckoo

theorem named : shape.Named where
  distinct := by decide
  found field := field.elim

theorem reads_empty (config : Cuckoo) : rendering.Reads read (.obj []) config := by
  have none : ([] : List (String × Json)).Perm (shape.layout fun _ => none) := List.Perm.refl []
  have reads (readField : Empty → ν → Reading Unit) :
      rendering.Reads (shape.read readField) (.obj []) fun _ => () :=
    Shape.reads_layout named (fun field => field.elim) (fun field => field.elim) none
  exact (reads _).map fun _ => Cuckoo.mk

theorem reads (config : Cuckoo) :
    rendering.Reads read (arrangement.apply config.toJson) config := by
  have bare : arrangement.apply (.obj []) = .obj [] := by cases arrangement <;> rfl
  rw [toJson, bare]
  exact reads_empty config

end Cuckoo

end Backend

end KvTables
