import KvTables.Proofs.Agreement.Yaml
import KvTables.Proofs.Creators.Lines
import KvTables.Proofs.Tasks.Basic

/-! A failure tells the phase in which it arose.

While a config is built, what went wrong with which input decides the class of the failure. Once it is
built, no failure is of those classes.
-/

set_option autoImplicit false

namespace KvTables

open Backend

variable {σ Table : Type}

namespace Building

def paramsFile? : Building → Option String
  | .file path => some path
  | .standardFile => some RocksDb.standardPath
  | .value ⟨.str path, _⟩ => some path
  | .written ⟨some path, none⟩ => some path
  | _ => none

def file? : Building → Option String
  | .backendsFile path => some path
  | building => building.paramsFile?

def document? (files : Files) : Building → Option String
  | .backends text => some text
  | .backendsFile path => (files.read path).toOption
  | _ => none

def argumentFault? : Building → Option ArgumentFault
  | .value ⟨.null, _⟩ => some (.sourceType "null")
  | .value ⟨.bool _, _⟩ => some (.sourceType "bool")
  | .value ⟨.num _, _⟩ => some (.sourceType "number")
  | .value ⟨.arr _, _⟩ => some (.sourceType "array")
  | .written ⟨some _, some _⟩ => some .bothSources
  | .written ⟨none, none⟩ => some .noSource
  | _ => none

/-- The phases in which building fails, each with its class of failures. -/
inductive Fails (files : Files) : Building → Failure → Prop where
  | unread {building : Building} {path : String} {cause : ReadError}
      (opened : building.file? = some path) (unread : files.read path = .error cause) :
    Fails files building (.configRead path cause)
  | unparsed {building : Building} {path content : String} {cause : Fault}
      (loaded : building.paramsFile? = some path) (holds : files.read path = .ok content)
      (unparsed : ((Json.readText Reading.object content).run files).value = .error cause) :
    Fails files building (.configParse path cause)
  | undocumented {building : Building} {text : String} {cause : Fault}
      (given : building.document? files = some text)
      (undocumented : ((Form.document.readYaml text).run files).value = .error cause) :
    Fails files building (.configDocument cause)
  | unusable {building : Building} {cause : ArgumentFault}
      (unusable : building.argumentFault? = some cause) :
    Fails files building (.invalidArgument cause)

variable {files : Files}

theorem fails_fromPath {building : Building} {path : String} {failure : Failure}
    (loaded : building.paramsFile? = some path) (opened : building.file? = some path)
    (failed : (RocksDb.fromPath path files).value = .error failure) : Fails files building failure := by
  cases holds : files.read path with
  | error cause =>
    rw [RocksDb.fromPath_of_error path holds] at failed
    obtain rfl := Except.error.inj failed
    exact .unread opened holds
  | ok content =>
    rw [RocksDb.fromPath_of_ok path holds] at failed
    split at failed
    · next cause unparsed =>
      obtain rfl := Except.error.inj failed
      exact .unparsed loaded holds unparsed
    · cases failed

theorem fails_ofText {building : Building} {text : String} {failure : Failure}
    (given : building.document? files = some text)
    (failed : (Factory.ofText text files).value = .error failure) : Fails files building failure := by
  cases read : ((Form.document.readYaml text).run files).value with
  | ok document =>
    rw [Factory.ofText_of_ok read] at failed
    cases failed
  | error cause =>
    rw [Factory.ofText_of_error read] at failed
    obtain rfl := Except.error.inj failed
    exact .undocumented given read

theorem fails_of_run {building : Building} {failure : Failure}
    (failed : (building.run files).value = .error failure) : Fails files building failure := by
  cases building with
  | file path => exact fails_fromPath rfl rfl failed
  | standardFile => exact fails_fromPath rfl rfl failed
  | value source =>
    obtain ⟨json, canonical⟩ := source
    cases json with
    | str path => exact fails_fromPath rfl rfl failed
    | obj fields => cases failed
    | null | bool _ | num _ | arr _ =>
      obtain rfl := Except.error.inj failed
      exact .unusable rfl
  | written form =>
    obtain ⟨_ | path, _ | params⟩ := form
    · obtain rfl := Except.error.inj failed
      exact .unusable rfl
    · cases failed
    · exact fails_fromPath rfl rfl failed
    · obtain rfl := Except.error.inj failed
      exact .unusable rfl
  | backends text => exact fails_ofText rfl failed
  | backendsFile path =>
    cases holds : files.read path with
    | error cause =>
      change (Factory.ofFile path files).value = _ at failed
      rw [Factory.ofFile_of_error holds] at failed
      obtain rfl := Except.error.inj failed
      exact .unread rfl holds
    | ok content =>
      change (Factory.ofFile path files).value = _ at failed
      rw [Factory.ofFile_of_ok holds] at failed
      exact fails_ofText (congrArg Except.toOption holds) failed

theorem run_of_paramsFile {building : Building} {path : String}
    (loaded : building.paramsFile? = some path) (failure : Failure) :
    (building.run files).value = .error failure ↔
      (RocksDb.fromPath path files).value = .error failure := by
  cases building with
  | file _ | standardFile =>
    cases loaded
    exact Iff.rfl
  | value source =>
    obtain ⟨json, canonical⟩ := source
    cases json with
    | str _ =>
      cases loaded
      exact Iff.rfl
    | _ => cases loaded
  | written form =>
    obtain ⟨_ | _, _ | _⟩ := form
    · cases loaded
    · cases loaded
    · cases loaded
      exact Iff.rfl
    · cases loaded
  | backends _ | backendsFile _ => cases loaded

theorem run_of_document {building : Building} {text : String}
    (given : building.document? files = some text) (failure : Failure) :
    (building.run files).value = .error failure ↔
      (Factory.ofText text files).value = .error failure := by
  cases building with
  | backends _ =>
    cases given
    exact Iff.rfl
  | backendsFile path =>
    cases holds : files.read path with
    | error cause =>
      rw [document?, holds] at given
      cases given
    | ok content =>
      rw [document?, holds] at given
      cases given
      change (Factory.ofFile path files).value = _ ↔ _
      rw [Factory.ofFile_of_ok holds]
      exact Iff.rfl
  | _ => cases given

theorem run_of_argumentFault {building : Building} {cause : ArgumentFault}
    (unusable : building.argumentFault? = some cause) :
    (building.run files).value = .error (.invalidArgument cause) := by
  cases building with
  | value source =>
    obtain ⟨json, canonical⟩ := source
    cases json with
    | str _ | obj _ => cases unusable
    | null | bool _ | num _ | arr _ =>
      cases unusable
      rfl
  | written form =>
    obtain ⟨_ | _, _ | _⟩ := form
    · cases unusable
      rfl
    · cases unusable
    · cases unusable
    · cases unusable
      rfl
  | _ => cases unusable

/-- Building fails exactly in these phases. -/
theorem run_eq_error {building : Building} {failure : Failure} :
    (building.run files).value = .error failure ↔ Fails files building failure := by
  refine ⟨fails_of_run, fun fails => ?_⟩
  cases fails with
  | @unread path cause opened unread =>
    by_cases loaded : building.paramsFile? = some path
    · rw [run_of_paramsFile loaded, RocksDb.fromPath_of_error path unread]
    · cases building with
      | backendsFile _ =>
        cases opened
        change (Factory.ofFile path files).value = _
        rw [Factory.ofFile_of_error unread]
        rfl
      | _ => exact absurd opened loaded
  | @unparsed path content cause loaded holds unparsed =>
    rw [run_of_paramsFile loaded, RocksDb.fromPath_of_ok path holds, unparsed]
  | @undocumented text cause given undocumented =>
    rw [run_of_document given, Factory.ofText_of_error undocumented]
  | unusable unusable => exact run_of_argumentFault unusable

end Building

theorem Backend.RocksDb.invalidParams_of_options {config : RocksDb} {failure : Failure}
    (failed : config.options.value = .error failure) : ∃ cause, failure = .invalidParams cause := by
  rw [options] at failed
  change (Logged.bind _ _).value = _ at failed
  cases read : ((Options.read config.params.toJson).run Files.initial).value with
  | error cause =>
    simp only [Logged.bind, read] at failed
    exact ⟨cause, (Except.error.inj failed).symm⟩
  | ok options =>
    simp only [Logged.bind, read] at failed
    split at failed
    · cases failed
    · cases failed

namespace Using

/-- Whether a provider that is asked fails in ways of its own. -/
def TellsApart : Using σ Table → Prop
  | .create _ _ provider _ _ => ∀ construction memory failure,
      (provider.construct construction memory).1 = .error failure → failure.isConfigLoad = false
  | _ => True

theorem isConfigLoad_of_run {use : Using σ Table} (tells : use.TellsApart) {environment : Environment}
    {failure : Failure} (failed : (use.run environment).value = .error failure) :
    failure.isConfigLoad = false := by
  cases use with
  | resolve factory reference =>
    obtain ⟨name, rfl⟩ := Factory.unknownBackend_of_resolve failed
    rfl
  | creatorFor factory reference =>
    change (factory.creator reference).value = _ at failed
    rw [Factory.value_creator] at failed
    cases resolved : factory.resolve reference with
    | ok config =>
      rw [resolved] at failed
      cases failed
    | error cause =>
      obtain ⟨name, rfl⟩ := Factory.unknownBackend_of_resolve resolved
      rw [resolved] at failed
      obtain rfl := Except.error.inj failed
      rfl
  | isVolatile factory reference => cases failed
  | resolvePath config => cases failed
  | options config =>
    obtain ⟨cause, rfl⟩ := RocksDb.invalidParams_of_options failed
    rfl
  | toValue value =>
    cases value with
    | concrete value => cases failed
    | symbolic tensor =>
      obtain rfl := Except.error.inj failed
      rfl
  | create direct creator provider call memory =>
    change (creator.createVia direct provider call memory).value.result = _ at failed
    rw [Creator.createVia_value] at failed
    -- The provider fails in its own way; before it is asked, only the config can be refused.
    cases asked : creator.construction call with
    | ok construction =>
      rw [asked] at failed
      exact tells construction memory failure failed
    | error refusal =>
      obtain rfl := Creator.wrongConfig_of_construction asked
      rw [asked] at failed
      obtain rfl := Except.error.inj failed
      rfl
  | exportConfig creator =>
    change creator.exportConfig.value = _ at failed
    rcases creator.exportConfig_cases with ⟨params, same⟩ | same | ⟨operation, same⟩ |
      ⟨stored, call, value, own, -, -, -, same⟩
    · rw [same] at failed
      cases failed
    · rw [same] at failed
      obtain rfl := Except.error.inj failed
      rfl
    · rw [same] at failed
      obtain rfl := Except.error.inj failed
      rfl
    · rw [same] at failed
      obtain rfl := Except.error.inj failed
      rfl

end Using

/-- For any files and variables: a failure to build a config is of the class of the phase in which it
arose, each class told by the input alone; and nothing that uses a config fails in these classes, unless
a provider does. -/
theorem Failure.tells_phase (files : Files) (environment : Environment) :
    (∀ (building : Building) (failure : Failure),
      (building.run files).value = .error failure → failure.isConfigLoad = true) ∧
    (∀ (building : Building) (path : String) (cause : ReadError),
      (building.run files).value = .error (.configRead path cause) ↔
        building.file? = some path ∧ files.read path = .error cause) ∧
    (∀ (building : Building) (path : String),
      (∃ cause, (building.run files).value = .error (.configParse path cause)) ↔
        building.paramsFile? = some path ∧ ∃ content, files.read path = .ok content ∧
          ∀ fields, Json.ofText content ≠ .ok (.obj fields)) ∧
    (∀ (building : Building) (cause : Fault),
      (building.run files).value = .error (.configDocument cause) ↔
        ∃ text, building.document? files = some text ∧
          ((Form.document.readYaml text).run files).value = .error cause) ∧
    (∀ (building : Building) (cause : ArgumentFault),
      (building.run files).value = .error (.invalidArgument cause) ↔
        building.argumentFault? = some cause) ∧
    ∀ use : Using σ Table, use.TellsApart → ∀ failure,
      (use.run environment).value = .error failure → failure.isConfigLoad = false := by
  refine ⟨fun building failure failed => ?_, fun building path cause => ?_, fun building path => ?_,
    fun building cause => ?_, fun building cause => ?_, fun use tells failure =>
    Using.isConfigLoad_of_run tells⟩
  · cases Building.run_eq_error.1 failed <;> rfl
  · rw [Building.run_eq_error]
    constructor
    · intro fails
      cases fails with
      | unread opened unread => exact ⟨opened, unread⟩
    · rintro ⟨opened, unread⟩
      exact .unread opened unread
  · constructor
    · rintro ⟨cause, failed⟩
      cases Building.run_eq_error.1 failed with
      | @unparsed _ content _ loaded holds unparsed =>
        exact ⟨loaded, content, holds, Json.not_obj_of_readText unparsed⟩
    · rintro ⟨loaded, content, holds, other⟩
      obtain ⟨cause, unparsed⟩ := Json.readText_of_not_obj files other
      exact ⟨cause, Building.run_eq_error.2 (.unparsed loaded holds unparsed)⟩
  · rw [Building.run_eq_error]
    constructor
    · intro fails
      cases fails with
      | undocumented given undocumented => exact ⟨_, given, undocumented⟩
    · rintro ⟨text, given, undocumented⟩
      exact .undocumented given undocumented
  · rw [Building.run_eq_error]
    constructor
    · intro fails
      cases fails with
      | unusable unusable => exact unusable
    · exact .unusable

/-- Parameters in two places: the file is not opened, so that it does not matter that it is missing. -/
theorem Failure.tells_phase_fails_bothSources :
    let building := Building.written ⟨some "missing.json", some .empty⟩
    (building.run .initial).value = .error (.invalidArgument .bothSources) ∧
    Files.initial.read "missing.json" = .error .missing ∧
    ¬ ((∃ path cause, (building.run .initial).value = .error (.configRead path cause)) ↔
        ∃ cause, Files.initial.read "missing.json" = .error cause) := by
  intro building
  have refused : (building.run .initial).value = .error (.invalidArgument .bothSources) := rfl
  have unread : Files.initial.read "missing.json" = .error .missing := by rfl
  refine ⟨refused, unread, fun same => ?_⟩
  obtain ⟨path, cause, failed⟩ := same.2 ⟨_, unread⟩
  cases refused.symm.trans failed

def missingFile : Yaml.Document where
  root :=
    let word (text : String) : Yaml.Node := .scalar .plain none text none
    .mapping none [(word "backends", .sequence none [.mapping none [(word "id", word "a"),
      (word "backend_type", word "rocksdb"), (word "src", word "x")] none] none)] none
  targets := []
  events := 13
  sound := true

def missingFileText : String := "backends: [\x7bid: a, backend_type: rocksdb, src: x\x7d]"

def missingFileTokens : List Yaml.Token :=
  [.blockMappingStart, .key, .scalar .plain "backends", .value, .flowSequenceStart, .flowMappingStart,
    .key, .scalar .plain "id", .value, .scalar .plain "a", .flowEntry, .key,
    .scalar .plain "backend_type", .value, .scalar .plain "rocksdb", .flowEntry, .key,
    .scalar .plain "src", .value, .scalar .plain "x", .flowMappingEnd, .flowSequenceEnd, .blockEnd,
    .textEnd]

/-- The missing file is reported as a fault of the document, and a creator without a config is not. -/
theorem Failure.tells_phase_nested :
    let cause : Fault := .mismatch (some "backends[0]")
      (.refused (Failure.configRead "x" .missing).message)
    let refused : Using Unit Nat :=
      .create true (.redis none) .bare ⟨.ofTypes .int64 .int8, none⟩ ()
    Yaml.Document.ofText missingFileText = missingFile ∧
    ((Form.document.readYaml missingFileText).run .initial).value = .error cause ∧
    ((Building.backends missingFileText).run .initial).value = .error (.configDocument cause) ∧
    (Failure.configDocument cause).isConfigLoad = true ∧
    refused.TellsApart ∧ (refused.run .initial).value = .error (.wrongConfig .redis none) ∧
    (Failure.wrongConfig .redis none).isConfigLoad = false := by
  intro cause refused
  obtain ⟨classes, -, -, documents, -, uses⟩ := @tells_phase Unit Nat .initial .initial
  have scanned : Yaml.Token.ofText missingFileText = missingFileTokens := by decide +kernel
  have parsed : Yaml.Document.ofText missingFileText = missingFile := by
    rw [Yaml.Document.ofText, scanned]
    rfl
  have sound : (Yaml.Document.ofText missingFileText).sound := by rw [parsed]; rfl
  have read : ((Form.document.readYaml missingFileText).run .initial).value = .error cause := by
    change ((Yaml.readText Document.read missingFileText).run .initial).value = _
    rw [Yaml.run_readText sound, parsed]
    rfl
  have failed := (documents (.backends missingFileText) cause).2 ⟨_, rfl, read⟩
  have tells : refused.TellsApart := by
    rintro construction memory failure answered
    obtain rfl := Except.error.inj answered
    rfl
  have mistyped : (refused.run .initial).value = .error (.wrongConfig .redis none) := rfl
  exact ⟨parsed, read, failed, classes _ _ failed, tells, mistyped, uses refused tells _ mistyped⟩

end KvTables
