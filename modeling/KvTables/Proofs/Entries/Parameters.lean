import KvTables.Form
import KvTables.Proofs.Json.Unbroken
import KvTables.Proofs.Recovery.Backend

/-! Where the parameters of a RocksDB table can come from.

A path leads to the same parameters, the same lines and the same failures whether it is given as such,
as a loosely typed value or as the source of a written config. Parameters in a file are those that could
have been given inline.
-/

set_option autoImplicit false

namespace KvTables

namespace Reading

variable {α : Type}

@[simp] theorem run_consult (load : Files → Logged (Except Mismatch α)) (files : Files) :
    (consult load).run files = (load files).map (·.mapError (.mismatch none)) := rfl

end Reading

namespace Backend.RocksDb

def reported (loaded : Logged (Except Failure RocksDb)) : Logged (Except Fault RocksDb) :=
  loaded.map (·.mapError fun failure => .mismatch none (.refused failure.message))

def sourced (path : String) : Json := .obj [("src", .str path)]

section

variable {ν : Type} [Source ν] {rendering : Rendering ν}

def Written.parts (written : Written) : (field : Field) → field.Value
  | .src => written.src
  | .params => written.params

/-- Parts in order lead to what they load. -/
theorem run_of_parts {value : ν} {written : Written}
    (parts : shape.read readField value = pure written.parts) (files : Files) :
    (read value).run files = reported (written.load files) := by
  rw [read, parts, pure_bind, Reading.run_consult, reported]
  change ((written.load files).map _).map _ = _
  cases written.load files with
  | mk loaded log => cases loaded <;> rfl

def sourcedSlots (path : String) : (field : Field) → field.Value
  | .src => some path
  | .params => none

theorem reads_sourced (path : String) :
    rendering.Reads (shape.read readField) (sourced path) (sourcedSlots path) := by
  let write : Field → Option Json
    | .src => some (.str path)
    | .params => none
  have reads : ∀ field json, write field = some json →
      rendering.Reads (readField field) json (sourcedSlots path field) := by
    intro field json given
    cases field with
    | src =>
      obtain rfl := Option.some.inj given
      exact (Rendering.Reads.text path _).optional Json.noConfusion
    | params => cases given
  have absent : ∀ field, write field = none → shape.absent field = some (sourcedSlots path field) := by
    intro field none
    cases field with
    | src => cases none
    | params => rfl
  exact Shape.reads_layout named reads absent (List.Perm.refl _)

/-- A config with a source loads its file, and reports what came of it. -/
theorem run_sourced {level : Nat} (path : String)
    (enough : Reading.allows rendering.deepest (level + 1)) (files : Files) :
    (read (rendering.render level (sourced path))).run files = reported (fromPath path files) := by
  have slots : sourcedSlots path = Written.parts ⟨some path, none⟩ :=
    funext fun field => by cases field <;> rfl
  have parts : shape.read readField (rendering.render level (sourced path)) =
      pure (Written.parts ⟨some path, none⟩) := by
    rw [reads_sourced path level (Reading.allows_mono (Nat.le_succ _) enough), ← slots]
    exact Reading.upTo_of_allows enough _
  exact run_of_parts parts files

end

/-- Parameters without doubles are loaded from the file that holds their text. -/
theorem fromPath_toText {path : String} {files : Files} {params : Json.Object}
    (exactly : params.toJson.isExact) (fits : params.toJson.depth ≤ Json.deepest)
    (holds : files.read path = .ok params.toJson.toText) :
    (fromPath path files).value = .ok ⟨params⟩ := by
  have shown : Reading.allows (some Json.deepest) (0 + params.toJson.depth) :=
    Reading.allows_some.2 (by omega)
  have object : Json.Cursor.rendering.Reads Reading.object params.toJson params :=
    Rendering.Reads.object params
  have read : Reading.object (Json.Cursor.ofJson 0 params.toJson) = pure params :=
    (object 0 rfl).trans (Reading.upTo_of_allows shown params)
  have parsed : (Json.readText Reading.object params.toJson.toText).run files =
      Logged.silent (.ok params) := by
    rw [Json.readText_of_ofText (Json.ofText_toText exactly fits), read, Reading.run_pure]
  simp only [fromPath, holds, parsed]
  rfl

/-- All ways to name a file agree, and the parameters of a file are those that are given inline. -/
theorem entries_agree (path : String) (files : Files) :
    fromValue (.ofJson (.str path)) files = fromPath path files ∧
    Json.ofText (sourced path).toText = .ok (sourced path) ∧
    (∀ text, Json.ofText text = .ok (sourced path) →
      (Form.readText .rocksDb text).run files = reported (fromPath path files)) ∧
    (Form.readValue .rocksDb (.ofJson (sourced path))).run files =
      reported (fromPath path files) ∧
    (∀ (failure : Failure) dialect,
      (Fault.mismatch none (.refused failure.message)).message dialect = failure.message) ∧
    ∀ params : Json.Object,
      fromValue (.ofJson params.toJson) files = Logged.silent (.ok ⟨params⟩) ∧
      (Form.readValue .rocksDb (.ofJson (.obj [("params", params.toJson)]))).run files =
        Logged.silent (.ok (⟨params⟩ : RocksDb)) ∧
      (params.toJson.isExact → params.toJson.depth ≤ 127 →
        files.read path = .ok params.toJson.toText →
          (fromPath path files).value = .ok ⟨params⟩ ∧
          (fromValue (.ofJson (.str path)) files).value = .ok ⟨params⟩ ∧
          (∀ text, Json.ofText text = .ok (sourced path) →
            ((Form.readText .rocksDb text).run files).value = .ok (⟨params⟩ : RocksDb)) ∧
          ((Form.readValue .rocksDb (.ofJson (sourced path))).run files).value =
            .ok (⟨params⟩ : RocksDb) ∧
          (path = standardPath → (loadStandard files).value = .ok ⟨params⟩)) := by
  have fromText : ∀ text, Json.ofText text = .ok (sourced path) →
      (Form.readText .rocksDb text).run files = reported (fromPath path files) := by
    intro text parsed
    have enough : Reading.allows Json.Cursor.rendering.deepest (0 + 1) := rfl
    rw [Form.readText, Json.readText_of_ofText parsed]
    exact run_sourced path enough files
  have fromJson : (Form.readValue .rocksDb (.ofJson (sourced path))).run files =
      reported (fromPath path files) := by
    have enough : Reading.allows Json.rendering.deepest (0 + 1) := rfl
    exact run_sourced path enough files
  have printed : Json.ofText (sourced path).toText = .ok (sourced path) :=
    Json.ofText_toText rfl (show 1 ≤ Json.deepest by decide)
  refine ⟨rfl, printed, fromText, fromJson, fun _ _ => rfl, fun params => ⟨?_, ?_, ?_⟩⟩
  · have canonical : (Json.Value.ofJson params.toJson) = ⟨params.toJson, params.canonical⟩ :=
      Json.Value.ofJson_json ⟨params.toJson, params.canonical⟩
    rw [canonical]
    rfl
  · have written : Json.rendering.Reads read (Json.canonical (toJson ⟨params⟩)) ⟨params⟩ :=
      RocksDb.reads .sorted ⟨params⟩
    have whole : read (Json.canonical (toJson ⟨params⟩)) = pure ⟨params⟩ := written 0 rfl
    exact congrArg (Reading.run · files) whole
  · intro exactly fits holds
    have loaded := fromPath_toText exactly fits holds
    have config : (reported (fromPath path files)).value = .ok ⟨params⟩ :=
      congrArg (Except.mapError _) loaded
    refine ⟨loaded, loaded, fun text parsed => ?_, ?_, ?_⟩
    · rw [fromText text parsed]
      exact config
    · rw [fromJson]
      exact config
    · rintro rfl
      exact loaded

def storedParams : Json.Object := .ofFields [("name", .str "t"), ("id", .arr [.null])]

def storedFiles : Files :=
  ⟨[(⟨.root, ["tmp"]⟩, .directory),
    (⟨.root, ["rocksdb_config.json", "tmp"]⟩, .text storedParams.toJson.toText)]⟩

theorem entries_agree_stored :
    storedParams.toJson.isExact ∧ storedParams.toJson.depth ≤ 127 ∧
    storedFiles.read standardPath = .ok storedParams.toJson.toText ∧
    Json.ofText (sourced standardPath).toText = .ok (sourced standardPath) ∧
    (Form.readText .rocksDb (sourced standardPath).toText).run storedFiles =
      reported (fromPath standardPath storedFiles) ∧
    ((Form.readText .rocksDb (sourced standardPath).toText).run storedFiles).value =
      .ok (⟨storedParams⟩ : RocksDb) ∧
    (loadStandard storedFiles).value = .ok ⟨storedParams⟩ := by
  have exactly : storedParams.toJson.isExact := by decide
  have fits : storedParams.toJson.depth ≤ 127 := by decide
  have holds : storedFiles.read standardPath = .ok storedParams.toJson.toText := by rfl
  obtain ⟨-, parsed, fromText, -, -, given⟩ := entries_agree standardPath storedFiles
  obtain ⟨-, -, stored⟩ := given storedParams
  obtain ⟨-, -, byText, -, byDefault⟩ := stored exactly fits holds
  exact ⟨exactly, fits, holds, parsed, fromText _ parsed, byText _ parsed, byDefault rfl⟩

end Backend.RocksDb

end KvTables
