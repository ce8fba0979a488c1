import KvTables.Backend.Document
import KvTables.Backend.RocksDb.Options
import KvTables.Proofs.Agreement.Records

/-! Backend configs are read alike from values that show the same.

Among them only the config of a RocksDB table can look at a file, which it does once all of its
fields have been read.
-/

set_option autoImplicit false

namespace KvTables

open Reading (Leads)

variable {ν μ : Type} [Source ν] [Source μ] {Shows Top : ν → Json → Prop} {Shown : μ → Json → Prop}

theorem Agree.optionalText (faithful : Faithful Shows) (showing : Showing Shown)
    (expected : String) :
    Agree Shows Shown True (Reading.optional (Source.text expected))
      (Reading.optional (Source.text expected)) :=
  .optional faithful showing (.text faithful showing expected)

namespace Backend

theorem Kind.agree (faithful : Faithful Shows) (other : Faithful Shown) :
    Agree Shows Shown True Kind.read Kind.read :=
  .bare faithful other _

theorem Cuckoo.agree (compares : Compares Shows Top Shown) :
    Agree Top Shown True Cuckoo.read Cuckoo.read :=
  (Shape.agree_quietly compares fun field => field.elim).map fun _ => Cuckoo.mk

namespace Redis

theorem agree_field (faithful : Faithful Shows) (showing : Showing Shown) (field : Field) :
    Agree Shows Shown True (readField field) (readField field) := by
  cases field <;> exact .optionalText faithful showing _

theorem agree (compares : Compares Shows Top Shown) : Agree Top Shown True read read :=
  (Shape.agree_quietly compares (agree_field compares.faithful compares.showing)).map
    fun slots => Redis.mk (slots .path) (slots .envName)

end Redis

namespace RocksDb

theorem agree_field (faithful : Faithful Shows) (showing : Showing Shown) (field : Field) :
    Agree Shows Shown True (readField field) (readField field) := by
  cases field with
  | src => exact .optionalText faithful showing _
  | params => exact .optional faithful showing (.object faithful showing)

theorem agree (compares : Compares Shows Top Shown) : Agree Top Shown False read read := by
  intro first second alike
  have fields : Agree Top Shown True (shape.read readField) (shape.read readField) :=
    Shape.agree_quietly compares (agree_field compares.faithful compares.showing)
  rw [read, read]
  refine (fields.louder alike).bind ?_
  rintro slots _ rfl
  -- Both sides ask the files the same.
  exact .refl _

namespace Options

theorem agree_field (faithful : Faithful Shows) (showing : Showing Shown) (field : Field) :
    Agree Shows Shown True (readField field) (readField field) := by
  cases field with
  | databasePath | embeddingName => exact .text faithful showing _
  | readOnly | estimateSize => exact .flag faithful showing
  | exportPath => exact .optionalText faithful showing _

theorem agree (compares : Compares Shows Top Shown) : Agree Top Shown True read read :=
  (Shape.agree_quietly compares (agree_field compares.faithful compares.showing)).map
    fun slots => Options.mk (slots .databasePath) (slots .embeddingName) (slots .readOnly)
      (slots .estimateSize) (slots .exportPath)

end Options

end RocksDb

end Backend

end KvTables
