import KvTables.Form
import KvTables.Proofs.Reading.Refused
import KvTables.Proofs.Recovery.Backend
import KvTables.Proofs.Text.Order

/-! Which parameters hold the options of a table, and what is wrong with those that hold none.

The two names have to be given, the other options can be left out. Of several values of a wrong type the
first in the order of the keys is reported, and a missing name only if no type is wrong.
-/

set_option autoImplicit false

namespace KvTables

namespace Reading

variable {α : Type}

theorem fail_inj {fault other : Fault} (same : (fail fault : Reading α) = fail other) :
    fault = other := by
  have ran : (fail fault : Reading α) .initial 0 = (fail other : Reading α) .initial 0 := by rw [same]
  exact Except.error.inj (congrArg Outcome.result ran)

end Reading

namespace Backend.RocksDb

open Json (Nullable)

namespace Options

/-- The options that parameters hold, each under its own key. Null counts as nothing for one alone. -/
structure Fits (options : Options) (params : Json.Object) : Prop where
  databasePath : params.get? "database_path" = some (.str options.databasePath)
  embeddingName : params.get? "embedding_name" = some (.str options.embeddingName)
  readOnly : (params.get? "read_only").getD (.bool false) = .bool options.readOnly
  estimateSize : (params.get? "estimate_size").getD (.bool false) = .bool options.estimateSize
  exportPath : Nullable .str (params.get? "export_path") options.exportPath

def Field.Takes : Field → Json → Prop
  | .databasePath, json | .embeddingName, json => ∃ text, json = .str text
  | .readOnly, json | .estimateSize, json => ∃ flag, json = .bool flag
  | .exportPath, json => json = .null ∨ ∃ text, json = .str text

def Field.expected : Field → String
  | .readOnly | .estimateSize => "a boolean"
  | .databasePath | .embeddingName | .exportPath => "a string"

/-- What is wrong with parameters that hold no options, in the words of a message. -/
inductive Wrong (params : Json.Object) : String → Prop where
  | type {field : Field} {json : Json} (held : params.get? (shape.name field) = some json)
      (misfit : ¬ field.Takes json)
      (first : ∀ other given, params.get? (shape.name other) = some given → ¬ other.Takes given →
        other ≠ field → Utf8.bytes (shape.name field) < Utf8.bytes (shape.name other)) :
      Wrong params
        ("invalid type: " ++ json.found.describe .json ++ ", expected " ++ field.expected)
  | noDatabasePath
      (typed : ∀ field json, params.get? (shape.name field) = some json → field.Takes json)
      (missing : params.get? "database_path" = none) : Wrong params "missing field `database_path`"
  | noEmbeddingName
      (typed : ∀ field json, params.get? (shape.name field) = some json → field.Takes json)
      (given : params.get? "database_path" ≠ none)
      (missing : params.get? "embedding_name" = none) : Wrong params "missing field `embedding_name`"

section

variable {field : Field} {json : Json}

theorem readField_of_takes (takes : field.Takes json) :
    ∃ value, readField field json = pure value := by
  cases field with
  | databasePath | embeddingName | readOnly | estimateSize =>
    obtain ⟨value, rfl⟩ := takes
    exact ⟨value, rfl⟩
  | exportPath =>
    obtain rfl | ⟨text, rfl⟩ := takes
    · exact ⟨none, rfl⟩
    · exact ⟨some text, rfl⟩

theorem readField_of_not_takes (misfit : ¬ field.Takes json) :
    readField field json = Reading.mismatch (.wrongType json.found field.expected) := by
  cases field with
  | databasePath | embeddingName =>
    cases json with
    | str text => exact absurd ⟨text, rfl⟩ misfit
    | _ => rfl
  | readOnly | estimateSize =>
    cases json with
    | bool flag => exact absurd ⟨flag, rfl⟩ misfit
    | _ => rfl
  | exportPath =>
    cases json with
    | null => exact absurd (.inl rfl) misfit
    | str text => exact absurd (.inr ⟨text, rfl⟩) misfit
    | _ => rfl

theorem takes_of_readField {value : field.Value} (read : readField field json = pure value) :
    field.Takes json := by
  by_contra misfit
  exact Reading.fail_ne_pure _ _ ((readField_of_not_takes misfit).symm.trans read)

theorem not_takes_of_readField {fault : Fault} (refused : readField field json = Reading.fail fault) :
    ¬ field.Takes json ∧ fault = .mismatch none (.wrongType json.found field.expected) := by
  have misfit : ¬ field.Takes json := fun takes =>
    have ⟨_, read⟩ := readField_of_takes takes
    Reading.fail_ne_pure _ _ (refused.symm.trans read)
  exact ⟨misfit, Reading.fail_inj (refused.symm.trans (readField_of_not_takes misfit))⟩

theorem settled_readField (field : Field) (json : Json) : (readField field json).Settled := by
  by_cases takes : field.Takes json
  · obtain ⟨value, read⟩ := readField_of_takes takes
    exact read ▸ .pure value
  · exact readField_of_not_takes takes ▸ .mismatch _

end

def Stands : (field : Field) → Option Json → field.Value → Prop
  | .databasePath | .embeddingName => fun place text => place = some (.str text)
  | .readOnly | .estimateSize => fun place flag => place.getD (.bool false) = .bool flag
  | .exportPath => Nullable .str

theorem readAt_eq_pure (field : Field) (place : Option Json) (value : field.Value) :
    shape.readAt readField field place = pure value ↔ Stands field place value := by
  have unset (flag : Bool) : some false = some flag ↔ Json.bool false = .bool flag := by
    rw [Option.some_inj, Json.bool.injEq]
  cases place with
  | none =>
    rw [Shape.readAt_none]
    cases field with
    | databasePath | embeddingName => exact ⟨nofun, nofun⟩
    | readOnly | estimateSize => exact unset value
    | exportPath => exact Option.some_inj.trans (eq_comm.trans Json.nullable_none.symm)
  | some json =>
    cases field with
    | databasePath | embeddingName =>
      exact (Json.text_eq_pure _ json value).trans Option.some_inj.symm
    | readOnly | estimateSize => exact Json.flag_eq_pure json value
    | exportPath =>
      exact Json.optional_eq_pure (fun _ => Json.noConfusion) (Json.settling.text _)
        (Json.text_eq_pure _ json) value

variable {params : Json.Object} {options : Options}

theorem fits_iff : options.Fits params ↔
    ∀ field, Stands field (params.get? (shape.name field)) (options.slots field) := by
  constructor
  · rintro ⟨databasePath, embeddingName, readOnly, estimateSize, exportPath⟩ field
    cases field <;> assumption
  · intro stands
    exact ⟨stands .databasePath, stands .embeddingName, stands .readOnly, stands .estimateSize,
      stands .exportPath⟩

theorem gives_iff (field : Field) (value : field.Value) :
    shape.Gives readField params.fields field value ↔
      Stands field (params.get? (shape.name field)) value := by
  have standing :
      shape.standing field params.fields = (params.get? (shape.name field)).toList := by
    rw [Shape.standing_eq_under named fun _ => rfl, Json.under_eq_lookup params.canonical.1.nodup]
    rfl
  exact (Shape.gives_of_standing standing value).trans (readAt_eq_pure field _ value)

/-- Options are read from the parameters that hold them and from no other. -/
theorem read_eq_pure : read params.toJson = pure options ↔ options.Fits params := by
  have slots : shape.read readField params.toJson = pure options.slots ↔ options.Fits params := by
    rw [fits_iff]
    exact (Shape.read_object_eq_pure settled_readField params.fields options.slots).trans
      (forall_congr' fun field => gives_iff field _)
  rw [← slots]
  exact (Json.settling.read settled_readField params.toJson).reshaped_eq_pure
    (fun _ => funext fun field => by cases field <;> rfl) (fun _ => rfl)

theorem isAbsolute_iff (path : String) : isAbsolute path = true ↔ ∃ rest, path = "/" ++ rest := by
  unfold isAbsolute
  constructor
  · intro starts
    obtain ⟨rest, spelled⟩ : ∃ rest, path.toList = '/' :: rest := by
      cases chars : path.toList with
      | nil => simp [chars] at starts
      | cons first rest =>
        obtain rfl : first = '/' := by simpa [chars] using starts
        exact ⟨rest, rfl⟩
    refine ⟨String.ofList rest, String.toList_inj.1 ?_⟩
    rw [spelled, String.toList_append]
    exact congrArg ('/' :: ·) String.toList_ofList.symm
  · rintro ⟨rest, rfl⟩
    rw [String.toList_append]
    rfl

theorem get?_eq_some_iff {key : String} {json : Json} :
    params.get? key = some json ↔ (key, json) ∈ params.fields :=
  Sorted.lookup_eq_some_iff params.canonical.1

/-- Only the two names have to be given, the path before the other. -/
theorem missing_name {field : Field} (first : (shape.fields.find? fun field =>
      (params.fields.lookup (shape.name field)).isNone && (shape.absent field).isNone) = some field) :
    field = .databasePath ∧ params.get? "database_path" = none ∨
      field = .embeddingName ∧ params.get? "database_path" ≠ none ∧
        params.get? "embedding_name" = none := by
  unfold Json.Object.get?
  cases path : params.fields.lookup "database_path" with
  | none =>
    have same : Field.databasePath = field := by simpa [shape, path] using first
    exact .inl ⟨same.symm, rfl⟩
  | some json =>
    cases name : params.fields.lookup "embedding_name" with
    | none =>
      have same : Field.embeddingName = field := by simpa [shape, path, name] using first
      exact .inr ⟨same.symm, Option.some_ne_none json, rfl⟩
    | some json => simp [shape, path, name] at first

/-- The first fault of the parameters is what the message is about. -/
theorem wrong_of_refuses {fault : Fault} (refuses : shape.Refuses readField params.fields fault) :
    ∃ cause, fault = .mismatch none cause ∧ Wrong params (cause.message .json) := by
  cases refuses with
  | @unread field json fault unread =>
    obtain ⟨held, refused, first⟩ := unread
    obtain ⟨misfit, rfl⟩ := not_takes_of_readField refused
    refine ⟨_, rfl, .type (get?_eq_some_iff.2 held) misfit fun other given held misfit different => ?_⟩
    exact Utf8.bytes_lt (first other given _ (get?_eq_some_iff.1 held) (readField_of_not_takes misfit)
      different)
  | @missing field readable first =>
    have typed (field : Field) (json : Json) (held : params.get? (shape.name field) = some json) :
        field.Takes json := by
      obtain ⟨value, read⟩ := readable field json (get?_eq_some_iff.1 held)
      exact takes_of_readField read
    obtain ⟨rfl, missing⟩ | ⟨rfl, given, missing⟩ := missing_name first
    · exact ⟨_, rfl, .noDatabasePath typed missing⟩
    · exact ⟨_, rfl, .noEmbeddingName typed given missing⟩

/-- Parameters hold options, or something is wrong with them. -/
theorem read_or_wrong (params : Json.Object) : (∃ options : Options, read params.toJson = pure options) ∨
    ∃ cause, read params.toJson = Reading.fail (.mismatch none cause) ∧
      Wrong params (cause.message .json) := by
  obtain ⟨values, parts⟩ | ⟨fault, refused, refuses⟩ :=
    Shape.read_or_refuses named (fun _ => rfl) settled_readField params.canonical.1
  · refine .inl ⟨⟨values .databasePath, values .embeddingName, values .readOnly, values .estimateSize,
      values .exportPath⟩, ?_⟩
    rw [read, Json.Object.toJson, parts]
    rfl
  · obtain ⟨cause, rfl, wrong⟩ := wrong_of_refuses refuses
    refine .inr ⟨cause, ?_, wrong⟩
    rw [read, Json.Object.toJson, refused]
    rfl

end Options

def relativePath (path : String) : Log.Line :=
  ⟨.warn, s!"RocksDB database_path '{path}' is relative, " ++
    "it resolves against the working directory"⟩

theorem options_of_read {params : Json.Object} {options : Options}
    (read : Options.read params.toJson = pure options) :
    (RocksDb.mk params).options = ⟨.ok options,
      if Options.isAbsolute options.databasePath then [] else [relativePath options.databasePath]⟩ := by
  unfold RocksDb.options
  rw [read]
  change (if Options.isAbsolute options.databasePath then _ else _) = _
  split <;> rfl

theorem options_of_fail {params : Json.Object} {fault : Fault}
    (refused : Options.read params.toJson = Reading.fail fault) :
    (RocksDb.mk params).options = ⟨.error (.invalidParams fault), []⟩ := by
  unfold RocksDb.options
  rw [refused]
  rfl

/-- Options that are written are parameters, and are had from these. -/
theorem options_of_written (options : Options) : ∃ params : Json.Object,
    params.toJson = (Form.toValue .rocksDbOptions options).json ∧
    (RocksDb.mk params).options.value = .ok options := by
  have recovered : Json.rendering.Reads Options.read
      (Json.Arrangement.sorted.apply options.toJson) options := options.reads .sorted
  have written : (Json.Object.ofFields (Options.shape.layout options.written)).toJson =
      options.toJson.canonical := by
    rw [options.toJson_eq_layout]
    rfl
  have read : Options.read options.toJson.canonical = pure options := recovered 0 rfl
  rw [← written] at read
  exact ⟨_, written, congrArg Logged.value (options_of_read read)⟩

/-- Options are had exactly where the parameters hold them. Otherwise the first thing that is wrong is
reported, and nothing is logged. Options that are written are had again. -/
theorem options_grammar (config : RocksDb) :
    (∀ options : Options, config.options.value = .ok options ↔ options.Fits config.params) ∧
    (∀ options : Options, options.Fits config.params →
      ((∃ rest, options.databasePath = "/" ++ rest) → config.options.log = []) ∧
      ((∀ rest, options.databasePath ≠ "/" ++ rest) →
        config.options.log = [relativePath options.databasePath])) ∧
    ((∀ options : Options, ¬ options.Fits config.params) →
      ∃ cause wrong, config.options = ⟨.error (.invalidParams cause), []⟩ ∧
        Options.Wrong config.params wrong ∧
        (Failure.invalidParams cause).message =
          "Invalid configuration: RocksDB parameters: " ++ wrong) ∧
    ∀ options : Options, ∃ params : Json.Object,
      params.toJson = (Form.toValue .rocksDbOptions options).json ∧
      (RocksDb.mk params).options.value = .ok options := by
  obtain ⟨params⟩ := config
  -- Options that are read are the only ones that fit; where something is wrong, none do.
  obtain ⟨found, read⟩ | ⟨cause, refused, wrong⟩ := Options.read_or_wrong params
  · have only (options : Options) : options.Fits params ↔ found = options := by
      rw [← Options.read_eq_pure, read]
      exact ⟨Reading.pure_inj, congrArg pure⟩
    rw [options_of_read read]
    simp only [only]
    refine ⟨fun options => ⟨Except.ok.inj, congrArg Except.ok⟩, ?_,
      fun none => absurd rfl (none found), options_of_written⟩
    rintro options rfl
    refine ⟨fun absolute => if_pos ((Options.isAbsolute_iff _).2 absolute), fun relative => ?_⟩
    exact if_neg fun absolute => (Options.isAbsolute_iff _).1 absolute |>.elim relative
  · have never (options : Options) : ¬ options.Fits params := fun fits =>
      Reading.fail_ne_pure _ _ (refused.symm.trans (Options.read_eq_pure.2 fits))
    rw [options_of_fail refused]
    refine ⟨fun options => ⟨nofun, fun fits => absurd fits (never options)⟩,
      fun options fits => absurd fits (never options), fun _ => ⟨_, _, rfl, wrong, rfl⟩,
      options_of_written⟩

/-- A relative path beside a key that no table understands; and two values of a wrong type where a name is
missing. -/
theorem options_grammar_relative :
    let plain : RocksDb := ⟨.ofFields [("database_path", .str "db"), ("embedding_name", .str "e"),
      ("export_path", .null), ("shards", .arr [])]⟩
    let broken : RocksDb := ⟨.ofFields [("database_path", .str "db"), ("read_only", .str "no"),
      ("estimate_size", .null)]⟩
    let options : Options := ⟨"db", "e", false, false, none⟩
    options.Fits plain.params ∧ (∀ rest, options.databasePath ≠ "/" ++ rest) ∧
    plain.options.value = .ok options ∧ plain.options.log = [relativePath "db"] ∧
    (∀ options : Options, ¬ options.Fits broken.params) ∧
    ∃ cause wrong, broken.options = ⟨.error (.invalidParams cause), []⟩ ∧
      Options.Wrong broken.params wrong := by
  intro plain broken options
  have fits : options.Fits plain.params := ⟨rfl, rfl, rfl, rfl, .null⟩
  have relative (rest : String) : options.databasePath ≠ "/" ++ rest := fun same =>
    absurd ((Options.isAbsolute_iff _).2 ⟨rest, same⟩) (by decide)
  have never (options : Options) : ¬ options.Fits broken.params := fun fits => nomatch fits.embeddingName
  obtain ⟨had, logged, -, -⟩ := options_grammar plain
  obtain ⟨-, -, refused, -⟩ := options_grammar broken
  obtain ⟨cause, wrong, failed, because, -⟩ := refused never
  exact ⟨fits, relative, (had options).2 fits, (logged options fits).2 relative, never, cause, wrong,
    failed, because⟩

end Backend.RocksDb

end KvTables
