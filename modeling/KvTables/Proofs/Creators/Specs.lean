import KvTables.Form
import KvTables.Proofs.Factories.Tables

/-! The names of backends in the description of a table.

A description names its backend twice, as a kind of its own and as the tag of its config. A kind is read
back from the first name. The two are the same for Redis and differ for RocksDB, whose tag no kind is
written under.
-/

set_option autoImplicit false

namespace KvTables

open Backend

variable {σ : Type}

namespace Creator

/-- What is described is the config in effect, which is of the creator's kind. -/
theorem spec_of_result {creator : Creator} (persistent : creator.kind ≠ .cuckoo) {direct : Bool}
    {call : Call} {memory : σ} {spec : TableSpec}
    (created : (creator.createVia direct Provider.spec call memory).value.result = .ok spec) :
    ∃ config : Config, config.kind = creator.kind ∧ spec = config.spec call.args := by
  rw [createVia_value] at created
  cases asked : creator.construction call with
  | error failure =>
    rw [asked] at created
    cases created
  | ok described =>
    rw [asked] at created
    obtain rfl : described.spec = spec := Except.ok.inj created
    unfold construction at asked
    dsimp only at asked
    split at asked
    · exact absurd rfl persistent
    · obtain rfl := Except.ok.inj asked
      exact ⟨.redis _, rfl, rfl⟩
    · obtain rfl := Except.ok.inj asked
      exact ⟨.rocksDb _, rfl, rfl⟩
    · cases asked
    · cases asked

end Creator

namespace Backend

theorem Kind.variantName_eq_name {kind : Kind} : kind.variantName = kind.name ↔ kind ≠ .rocksDb := by
  cases kind <;> decide

theorem Kind.ne_rocksDb_iff {kind : Kind} (persistent : kind ≠ .cuckoo) :
    kind ≠ .rocksDb ↔ kind = .redis := by
  cases kind with
  | cuckoo => exact absurd rfl persistent
  | redis => decide
  | rocksDb => decide

theorem Kind.readValue_variantName (kind : Kind) (files : Files) :
    (Form.readValue .kind (.ofJson (.str kind.variantName))).run files =
      Logged.silent (.ok kind : Except Fault Kind) := by
  cases kind <;> rfl

/-- The shown name of RocksDB is no name of a kind. -/
theorem Kind.readValue_name (kind : Kind) (files : Files) :
    ((Form.readValue .kind (.ofJson (.str kind.name))).run files).value = (.ok kind : Except Fault Kind) ↔
      kind ≠ .rocksDb := by
  cases kind with
  | cuckoo => exact ⟨fun _ => Kind.noConfusion, fun _ => rfl⟩
  | redis => exact ⟨fun _ => Kind.noConfusion, fun _ => rfl⟩
  | rocksDb =>
    refine ⟨fun read => ?_, fun other => absurd rfl other⟩
    cases read

/-- A described config carries the shown name of its kind, beside the name that the kind itself is
written under. -/
theorem Config.toJson_spec {config : Config} (persistent : config.kind ≠ .cuckoo)
    (args : TableArgs) :
    ∃ fields own, (config.spec args).toJson = .obj fields ∧
      fields.lookup "backend" = some (.str config.kind.variantName) ∧
      fields.lookup "config" = some (.obj own) ∧
      own.lookup "backend_type" = some (.str config.kind.name) := by
  cases config with
  | cuckoo config => exact absurd rfl persistent
  | redis config => exact ⟨_, _, rfl, rfl, rfl, rfl⟩
  | rocksDb config => exact ⟨_, _, rfl, rfl, rfl, rfl⟩

end Backend

namespace Creator

/-- Each description names its backend so that the kind is read back. The tag of its config is the name
that is shown; for Redis alone the two are the same, and the kind is read from the tag as well. -/
theorem spec_names {creator : Creator} (persistent : creator.kind ≠ .cuckoo) {direct : Bool} {call : Call}
    {memory : σ} {spec : TableSpec}
    (created : (creator.createVia direct Provider.spec call memory).value.result = .ok spec) :
    spec.backend = creator.kind ∧
    ∃ fields own, spec.toJson = .obj fields ∧
      fields.lookup "backend" = some (.str spec.backend.variantName) ∧
      fields.lookup "config" = some (.obj own) ∧
      own.lookup "backend_type" = some (.str spec.backend.name) ∧
      (∀ files, ((Form.readValue .kind (.ofJson (.str spec.backend.variantName))).run files).value =
        (.ok spec.backend : Except Fault Kind)) ∧
      (∀ files, ((Form.readValue .kind (.ofJson (.str spec.backend.name))).run files).value =
        (.ok spec.backend : Except Fault Kind) ↔ creator.kind = .redis) ∧
      (fields.lookup "backend" = own.lookup "backend_type" ↔ creator.kind = .redis) := by
  obtain ⟨config, own, rfl⟩ := spec_of_result persistent created
  rw [← own] at persistent ⊢
  have backend : (config.spec call.args).backend = config.kind := by cases config <;> rfl
  obtain ⟨fields, inner, written, named, nested, tagged⟩ := config.toJson_spec persistent call.args
  rw [backend]
  refine ⟨rfl, fields, inner, written, named, nested, tagged, fun files => ?_, fun files => ?_, ?_⟩
  · rw [Kind.readValue_variantName]
    rfl
  · exact (config.kind.readValue_name files).trans (Kind.ne_rocksDb_iff persistent)
  · rw [named, tagged, Option.some_inj, Json.str.injEq, Kind.variantName_eq_name]
    exact Kind.ne_rocksDb_iff persistent

def plainRocksDb : Creator := ofRocksDb RocksDb.standard

theorem spec_names_rocksDb :
    let call : Call := ⟨.ofTypes .int64 .float32, none⟩
    let spec := (Config.rocksDb RocksDb.standard).spec call.args
    plainRocksDb.kind ≠ .cuckoo ∧
    (plainRocksDb.createVia false Provider.spec call ()).value.result = .ok spec ∧
    ∃ fields own, spec.toJson = .obj fields ∧ fields.lookup "config" = some (.obj own) ∧
      fields.lookup "backend" ≠ own.lookup "backend_type" := by
  intro call spec
  have persistent : plainRocksDb.kind ≠ .cuckoo := Kind.noConfusion
  have created : (plainRocksDb.createVia false Provider.spec call ()).value.result = .ok spec := rfl
  obtain ⟨-, fields, own, written, -, nested, -, -, -, same⟩ := spec_names persistent created
  exact ⟨persistent, created, fields, own, written, nested, fun equal => nomatch same.1 equal⟩

/-- Not every description names its backend as its config does. -/
theorem not_spec_names_agree : ¬ ∀ (creator : Creator) (direct : Bool) (call : Call) (spec : TableSpec),
    creator.kind ≠ .cuckoo →
    (creator.createVia direct Provider.spec call ()).value.result = .ok spec →
    ∃ fields own, spec.toJson = .obj fields ∧ fields.lookup "config" = some (.obj own) ∧
      fields.lookup "backend" = own.lookup "backend_type" := by
  intro agree
  obtain ⟨_, _, ⟨⟩, nested, same⟩ := agree plainRocksDb false ⟨.ofTypes .int64 .float32, none⟩ _
    Kind.noConfusion rfl
  obtain rfl := Json.obj.inj (Option.some.inj nested)
  exact absurd (Json.str.inj (Option.some.inj same)) (by decide)

end Creator

end KvTables
