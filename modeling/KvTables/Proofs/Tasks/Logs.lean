import KvTables.Proofs.Creators.Lines
import KvTables.Proofs.Tasks.Basic

/-! The log tells failures from successes, whatever the task.

A success leaves no error line, a failure that is reported is the last line, and the lines of a creation
tell whether the provider was asked.
-/

set_option autoImplicit false

namespace KvTables

open Backend

variable {σ Table : Type}

theorem Building.candid (building : Building) (files : Files) :
    Candid True (building.run files) := by
  cases building with
  | file path => exact RocksDb.candid_fromPath path files
  | standardFile => exact RocksDb.candid_fromPath RocksDb.standardPath files
  | value source => exact RocksDb.candid_fromValue source files
  | written form => exact RocksDb.candid_load form files
  | backends text => exact Factory.candid_ofText text files
  | backendsFile path => exact Factory.candid_ofFile path files

theorem Factory.candid_resolve (factory : Factory) (reference : Reference) {own : Prop} :
    Candid own ⟨factory.resolve reference, []⟩ := by
  cases resolved : factory.resolve reference with
  | ok config => exact .ok Log.clean_nil
  | error failure =>
    obtain ⟨name, rfl⟩ := unknownBackend_of_resolve resolved
    exact .silent rfl

theorem Factory.candid_creator (factory : Factory) (reference : Reference) {own : Prop} :
    Candid own (factory.creator reference) := by
  rw [creator]
  cases resolved : factory.resolve reference with
  | ok config => exact .ok (Log.clean_line (by decide) _)
  | error failure =>
    obtain ⟨name, rfl⟩ := unknownBackend_of_resolve resolved
    exact .silent rfl

theorem Factory.clean_isVolatile (factory : Factory) (reference : Reference) :
    Log.Clean (factory.isVolatile reference).log := by
  rw [Factory.isVolatile]
  split
  · exact Log.clean_nil
  · exact Log.clean_line (by decide) _

theorem Backend.Redis.clean_resolvePath (config : Redis) (environment : Environment) :
    Log.Clean (config.resolvePath environment).log := by
  rw [resolvePath]
  split
  · exact Log.clean_nil
  · split
    · exact Log.clean_line (by decide) _
    · split
      · exact Log.clean_line (by decide) _
      · exact Log.clean_nil

theorem Backend.RocksDb.candid_options (config : RocksDb) {own : Prop} :
    Candid own config.options := by
  rw [options]
  change Candid own (Logged.bind _ _)
  cases read : ((Options.read config.params.toJson).run Files.initial).value with
  | error cause =>
    simp only [Logged.bind, read]
    exact .silent rfl
  | ok options =>
    have keeps : (Options.read config.params.toJson).Keeps Log.Law.clean.promise :=
      Json.answers.options config.params.toJson
    have early := keeps.clean_run read
    simp only [Logged.bind, read]
    split
    · exact .ok (early.append Log.clean_nil)
    · exact .ok (early.append (Log.clean_line (by decide) _))

namespace Creator

theorem clean_createVia (direct : Bool) (provider : Provider σ Table) (memory : σ) {creator : Creator}
    {call : Call} {construction : Construction} (asked : creator.construction call = .ok construction) :
    Log.Clean (creator.createVia direct provider call memory).log := by
  rw [log_createVia, createDirectly_of_ok provider memory asked]
  refine Log.Clean.append ?_ (Log.clean_line (by decide) _)
  split
  · exact Log.clean_nil
  · exact clean_keyLines creator call

/-- A creation that is refused before the provider is asked says why. -/
theorem candid_createVia (direct : Bool) (creator : Creator) (provider : Provider σ Table)
    (call : Call) (memory : σ) :
    Candid (creator.noted direct provider call memory = [])
      ((creator.createVia direct provider call memory).map Created.result) := by
  cases asked : creator.construction call with
  | ok construction =>
    have clean := clean_createVia direct provider memory asked
    rw [noted_of_ok direct provider memory asked]
    exact ⟨fun _ => clean, nofun⟩
  | error failure =>
    have refused : (creator.createVia direct provider call memory).map Created.result =
        ⟨.error failure, (if direct then [] else creator.keyLines call) ++
          [⟨.error, failure.message⟩]⟩ := by
      rw [← createDirectly_of_error provider memory asked, ← log_createVia, Logged.map,
        createVia_value, asked]
      rfl
    rw [refused]
    obtain rfl := wrongConfig_of_construction asked
    exact .whole rfl _

theorem exportConfig_of_notEager {creator : Creator} {cause : Deferred}
    (failed : creator.exportConfig.value = .error (.notEager cause)) :
    ∃ stored call value own, creator = .cuckoo stored (some call) ∧
      call.args.defaultValue = some value ∧ value.toValue = .error own ∧
      Log.EndsInError creator.exportConfig.log [own.message] := by
  rcases creator.exportConfig_cases with ⟨params, same⟩ | same | ⟨operation, same⟩ |
    ⟨stored, call, value, own, shape, given, symbolic, same⟩
  · rw [same] at failed
    cases failed
  · rw [same] at failed
    cases failed
  · rw [same] at failed
    cases failed
  · refine ⟨stored, call, value, own, shape, given, symbolic, ?_⟩
    rw [same]
    refine Log.endsInError_concat [] fun part member => ?_
    rw [List.mem_singleton.1 member]
    exact Log.mentions String.append_empty.symm

theorem candid_exportConfig (creator : Creator) {own : Prop} : Candid own creator.exportConfig := by
  rcases creator.exportConfig_cases with ⟨params, same⟩ | same | ⟨operation, same⟩ |
    ⟨stored, call, value, reason, shape, given, symbolic, same⟩
  · rw [same]
    exact .ok Log.clean_nil
  · rw [same]
    exact .silent rfl
  · rw [same]
    exact .silent rfl
  · rw [same]
    exact .silent rfl

end Creator

namespace Using

def noted : Using σ Table → List (Noted Table)
  | .create direct creator provider call memory => creator.noted direct provider call memory
  | _ => []

theorem candid (use : Using σ Table) (environment : Environment) :
    Candid (use.noted = []) (use.run environment) := by
  cases use with
  | resolve factory reference => exact factory.candid_resolve reference
  | creatorFor factory reference => exact factory.candid_creator reference
  | isVolatile factory reference =>
    exact .ok (factory.clean_isVolatile reference)
  | resolvePath config => exact .ok (config.clean_resolvePath environment)
  | options config => exact config.candid_options
  | toValue value =>
    cases value with
    | concrete value => exact .ok Log.clean_nil
    | symbolic tensor => exact .silent rfl
  | create direct creator provider call memory =>
    exact creator.candid_createVia direct provider call memory
  | exportConfig creator => exact creator.candid_exportConfig

end Using

/-- For any files and variables: a success logs no error; a failure to read or to parse a file, to read a
document or to find a config of the right kind, and an export refused for a symbolic value, is the last
line, and the line says why. One line announces a creation if and only if the provider is asked. -/
theorem Log.tells_failures (files : Files) (environment : Environment) :
    (∀ building : Building, Candid True (building.run files)) ∧
    (∀ (form : Form) (value : form.Value),
      (∀ text, ((form.readText text).run files).value = .ok value →
        Log.Clean ((form.readText text).run files).log) ∧
      (∀ tree, ((form.readValue tree).run files).value = .ok value →
        Log.Clean ((form.readValue tree).run files).log) ∧
      ∀ text, ((form.readYaml text).run files).value = .ok value →
        Log.Clean ((form.readYaml text).run files).log) ∧
    (∀ use : Using σ Table, Candid (use.noted = []) (use.run environment)) ∧
    (∀ (creator : Creator) (cause : Deferred),
      creator.exportConfig.value = .error (.notEager cause) →
      ∃ stored call value own, creator = .cuckoo stored (some call) ∧
        call.args.defaultValue = some value ∧ value.toValue = .error own ∧
        Log.EndsInError creator.exportConfig.log [own.message]) ∧
    ∀ (creator : Creator) (provider : Provider σ Table) (call : Call) (memory : σ),
      let checked := creator.create provider call memory
      let bare := creator.createDirectly provider call memory
      checked.value = bare.value ∧
      (call.args.keyDType.isKeyType = true → checked.log = bare.log) ∧
      (call.args.keyDType.isKeyType = false →
        ∃ warning, warning.level = .warn ∧ checked.log = warning :: bare.log) ∧
      ∀ direct, (creator.noted direct provider call memory).length ≤ 1 ∧
        (creator.createVia direct provider call memory).log.filter Log.Line.announces =
          (creator.noted direct provider call memory).map
            fun _ => ⟨.debug, Creator.announcement creator.kind call.args⟩ := by
  refine ⟨fun building => building.candid files, fun form value => ⟨?_, ?_, ?_⟩,
    fun use => use.candid environment, fun creator cause => Creator.exportConfig_of_notEager, ?_⟩
  -- That successes log no error is a law, and all that is read keeps it.
  · exact fun text => (form.keeps_readText Log.Law.clean.throughout text).clean_run
  · exact fun tree => (form.keeps_readValue Log.Law.clean.throughout tree).clean_run
  · exact fun text => (form.keeps_readYaml Log.Law.clean.throughout text).clean_run
  · intro creator provider call memory checked bare
    have lines : checked.log = creator.keyLines call ++ bare.log :=
      Creator.log_create provider memory creator call
    refine ⟨?_, fun keyed => ?_, fun other => ?_, fun direct => ⟨?_, ?_⟩⟩
    · exact (creator.createVia_value false provider call memory).trans
        (creator.createVia_value true provider call memory).symm
    · rw [lines, Creator.keyLines, if_pos keyed, List.nil_append]
    · rw [lines, Creator.keyLines, if_neg (Bool.eq_false_iff.1 other)]
      exact ⟨_, rfl, rfl⟩
    · exact Creator.length_noted direct provider memory creator call
    · exact Creator.filter_createVia direct provider memory creator call

/-- A file that is missing, a creator without a config, and a value that no one has computed. -/
theorem Log.tells_failures_missing :
    let file := Building.backendsFile "missing.yaml"
    let args : TableArgs := .ofTypes .float32 .int8
    let refused : Using Unit Nat := .create false (.redis none) .bare ⟨args, none⟩ ()
    let symbolic : TableArgs := { args with defaultValue := some (.symbolic "zero:0") }
    let creator : Creator := .cuckoo none (some ⟨symbolic, none⟩)
    (file.run .initial).value = .error (.configRead "missing.yaml" .missing) ∧
    EndsInError (file.run .initial).log ["missing.yaml", ReadError.missing.message] ∧
    refused.noted = [] ∧
    (refused.run .initial).value = .error (.wrongConfig .redis none) ∧
    EndsInError (refused.run .initial).log [(Failure.wrongConfig .redis none).message] ∧
    creator.exportConfig.value = .error (.notEager .creatorConfig) ∧
    EndsInError creator.exportConfig.log [(Failure.notEager (.value "zero:0")).message] ∧
    ∃ warning, warning.level = .warn ∧
      (Creator.newCuckoo.create (.bare : Provider Unit Nat) ⟨args, none⟩ ()).log =
        warning :: (Creator.newCuckoo.createDirectly (.bare : Provider Unit Nat) ⟨args, none⟩ ()).log := by
  intro file args refused symbolic creator
  obtain ⟨building, -, used, exporting, creating⟩ := @tells_failures Unit Nat .initial .initial
  have unread : (file.run .initial).value = .error (.configRead "missing.yaml" .missing) := by rfl
  have unasked : refused.noted = [] := rfl
  have mistyped : (refused.run .initial).value = .error (.wrongConfig .redis none) := rfl
  have deferred : creator.exportConfig.value = .error (.notEager .creatorConfig) := rfl
  obtain ⟨stored, call, value, own, same, given, uncomputed, last⟩ := exporting creator _ deferred
  obtain ⟨-, called⟩ := Creator.cuckoo.inj same
  obtain rfl := Option.some.inj called
  obtain rfl := Option.some.inj given
  obtain rfl := Except.error.inj uncomputed
  refine ⟨unread, (building file).reports trivial unread rfl, unasked, mistyped,
    (used refused).reports unasked mistyped rfl, deferred, last, ?_⟩
  exact (creating Creator.newCuckoo .bare ⟨args, none⟩ ()).2.2.1 rfl

end KvTables
