import KvTables.Proofs.Creators.History
import KvTables.Proofs.Reading.Keyed
import KvTables.Proofs.Reading.Trees
import KvTables.Proofs.Recovery.Table

/-! What an exported mapping tells of the last call.

The mapping is read back field by field, with null for what was not given. A default value of null
is exported like none, and nothing else is lost.
-/

set_option autoImplicit false

namespace KvTables

open Backend

namespace DType

def parse (json : Json) : Reading DType := do
  match ofName (← Source.text "a string" json) with
  | .ok dtype => pure dtype
  | .error failure => Reading.mismatch (.refused failure.message)

theorem parse_name (dtype : DType) : parse (.str dtype.name) = pure dtype := by
  cases dtype <;> rfl

end DType

namespace Json

variable {α : Type}

def Object.required (object : Object) (key : String) (read : Json → Reading α) : Reading α :=
  match object.get? key with
  | some value => read value
  | none => Reading.mismatch (.missingField key)

/-- Null is read as nothing, any other value as it is without the choice. -/
theorem optional_nullable {read : Json → Reading α} {write : α → Json}
    (reads : ∀ value, rendering.Reads read (write value) value)
    (given : ∀ value, write value ≠ .null) (value : Option α) :
    Reading.optional read ((value.map write).getD .null) = pure value := by
  cases value with
  | none => rfl
  | some value =>
    have read : rendering.Reads (Reading.optional read) (write value) (some value) :=
      Rendering.Reads.optional (reads value) (given value)
    exact read 0 rfl

end Json

namespace DefaultValue

def isNull : DefaultValue → Bool
  | .concrete ⟨.null, _⟩ => true
  | _ => false

theorem isNull_iff {value : DefaultValue} : value.isNull ↔ value = .concrete .null := by
  constructor
  · intro null
    cases value with
    | symbolic tensor => cases null
    | concrete value =>
      obtain ⟨json, canonical⟩ := value
      cases json with
      | null => rfl
      | _ => cases null
  · rintro rfl
    rfl

/-- A default value as far as an exported mapping tells, where null stands for none. -/
def told (given : Option DefaultValue) : Option DefaultValue := given.filter (!·.isNull)

theorem optional_json (value : Json.Value) :
    Reading.optional readConcrete value.json = pure (told (some (.concrete value))) := by
  by_cases null : (concrete value).isNull
  · obtain rfl : value = .null := concrete.inj (isNull_iff.1 null)
    rfl
  · have given : value.json ≠ .null := fun same => null (by
      obtain ⟨json, canonical⟩ := value
      subst same
      rfl)
    have kept : told (some (.concrete value)) = some (.concrete value) :=
      Option.filter_eq_some_iff.2 ⟨rfl, by simpa using null⟩
    have reads : Json.rendering.Reads (Reading.optional readConcrete) value.json
        (some (.concrete value)) := (reads_concrete value).optional given
    rw [kept]
    exact reads 0 rfl

end DefaultValue

namespace Call

def told (call : Call) : Call :=
  { call with args.defaultValue := DefaultValue.told call.args.defaultValue }

def DefaultsToNull (call : Call) : Prop :=
  call.args.defaultValue = none ∨ call.args.defaultValue = some (.concrete .null)

/-- Equal in every field, except that an unset default value and one of null are not told apart. -/
structure Alike (call other : Call) : Prop where
  keyDType : call.args.keyDType = other.args.keyDType
  valueDType : call.args.valueDType = other.args.valueDType
  name : call.args.name = other.args.name
  checkpoint : call.args.checkpoint = other.args.checkpoint
  initSize : call.args.initSize = other.args.initSize
  override : call.override = other.override
  defaultValue : call.args.defaultValue = other.args.defaultValue ∨
    call.DefaultsToNull ∧ other.DefaultsToNull

theorem defaultsToNull_iff (call : Call) :
    call.DefaultsToNull ↔ call.told.args.defaultValue = none := by
  unfold DefaultsToNull told DefaultValue.told
  cases call.args.defaultValue with
  | none => simp
  | some value => simp [Option.filter_some, DefaultValue.isNull_iff]

theorem told_told (call : Call) : call.told.told = call.told := by
  simp [told, DefaultValue.told, Option.filter_filter]

theorem alike_of_told {call other : Call} (same : call.told = other.told) : call.Alike other where
  keyDType := congrArg (·.args.keyDType) same
  valueDType := congrArg (·.args.valueDType) same
  name := congrArg (·.args.name) same
  checkpoint := congrArg (·.args.checkpoint) same
  initSize := congrArg (·.args.initSize) same
  override := congrArg (·.override) same
  defaultValue := by
    have defaults : call.told.args.defaultValue = other.told.args.defaultValue :=
      congrArg (·.args.defaultValue) same
    cases shown : call.told.args.defaultValue with
    | none =>
      exact .inr ⟨call.defaultsToNull_iff.2 shown,
        other.defaultsToNull_iff.2 (defaults.symm.trans shown)⟩
    | some value =>
      have given : call.args.defaultValue = some value := (Option.filter_eq_some_iff.1 shown).1
      have otherGiven : other.args.defaultValue = some value :=
        (Option.filter_eq_some_iff.1 (defaults.symm.trans shown)).1
      exact .inl (given.trans otherGiven.symm)

def defaultJson? (call : Call) : Option Json.Value :=
  match call.args.defaultValue with
  | none => some .null
  | some (.concrete value) => some value
  | some (.symbolic _) => none

theorem defaultJson?_told (call : Call) : call.told.defaultJson? = call.defaultJson? := by
  cases shown : call.told.args.defaultValue with
  | none =>
    have null : call.DefaultsToNull := call.defaultsToNull_iff.2 shown
    unfold defaultJson?
    rw [shown]
    rcases null with unset | null
    · rw [unset]
    · rw [null]
  | some value =>
    have given : call.args.defaultValue = some value := (Option.filter_eq_some_iff.1 shown).1
    unfold defaultJson?
    rw [shown, given]

theorem optional_default {call : Call} {value : Json.Value}
    (given : call.defaultJson? = some value) :
    Reading.optional DefaultValue.readConcrete value.json = pure call.told.args.defaultValue := by
  unfold defaultJson? at given
  split at given
  · next unset =>
    obtain rfl := Option.some.inj given
    rw [told, unset]
    rfl
  · next concrete set =>
    obtain rfl := Option.some.inj given
    rw [told, set]
    exact DefaultValue.optional_json concrete
  · cases given

def ofExported (params : Json.Object) : Reading Call := do
  let keyDType ← params.required "key_dtype" DType.parse
  let valueDType ← params.required "value_dtype" DType.parse
  let defaultValue ← params.required "default_value" (Reading.optional DefaultValue.readConcrete)
  let name ← params.required "name" (Reading.optional (Source.text "a string"))
  let checkpoint ← params.required "checkpoint" (Reading.optional Source.flag)
  let initSize ← params.required "init_size" (Reading.optional Source.count)
  let override ← params.required "config" (Reading.optional Config.read)
  return ⟨⟨keyDType, valueDType, defaultValue, name, checkpoint, initSize⟩, override⟩

theorem required_exported {α : Type} {call : Call} {default : Json.Value} {key : String}
    {read : Json → Reading α} {json : Json} {value : α}
    (given : (Creator.exportedFields call default.json).lookup key = some json)
    (reads : read json = pure value) :
    (Creator.exported call default.json).required key read = pure value := by
  rw [Json.Object.required, Json.Object.get?, Creator.exported_fields, given]
  exact reads

theorem ofExported_exported {call : Call} {default : Json.Value}
    (given : call.defaultJson? = some default) :
    ofExported (Creator.exported call default.json) = pure call.told := by
  have keyDType : (Creator.exported call default.json).required "key_dtype" DType.parse =
      pure call.args.keyDType :=
    required_exported rfl call.args.keyDType.parse_name
  have valueDType : (Creator.exported call default.json).required "value_dtype" DType.parse =
      pure call.args.valueDType :=
    required_exported rfl call.args.valueDType.parse_name
  have defaultValue : (Creator.exported call default.json).required "default_value"
      (Reading.optional DefaultValue.readConcrete) = pure call.told.args.defaultValue :=
    required_exported rfl (optional_default given)
  have name : (Creator.exported call default.json).required "name"
      (Reading.optional (Source.text "a string")) = pure call.args.name :=
    required_exported rfl (Json.optional_nullable
      (fun text => Rendering.Reads.text text "a string") (fun _ => Json.noConfusion) _)
  have checkpoint : (Creator.exported call default.json).required "checkpoint"
      (Reading.optional Source.flag) = pure call.args.checkpoint :=
    required_exported rfl
      (Json.optional_nullable Rendering.Reads.flag (fun _ => Json.noConfusion) _)
  have initSize : (Creator.exported call default.json).required "init_size"
      (Reading.optional Source.count) = pure call.args.initSize :=
    required_exported rfl
      (Json.optional_nullable Rendering.Reads.count (fun _ => Json.noConfusion) _)
  -- A config is exported with its fields in the order of their keys.
  have override : (Creator.exported call default.json).required "config"
      (Reading.optional Config.read) = pure call.override :=
    required_exported rfl
      (Json.optional_nullable (fun config => config.reads .sorted) (fun _ => Json.noConfusion) _)
  simp only [ofExported, keyDType, valueDType, defaultValue, name, checkpoint, initSize, override,
    pure_bind]
  rfl

end Call

namespace Creator

/-- Creators that some run of uses leads to from fresh ones, with the calls in their past. -/
inductive Reached : Creator → List Call → Prop
  | byRun {ι σ Table : Type} [DecidableEq ι] (start : ι → Kind × Option Config) (memory : σ)
      (uses : List (Use ι σ Table)) (name : ι) :
      Reached ((Use.run uses
          ⟨fun name => .ofKind (start name).1 (start name).2, memory⟩).value.2.creators name)
        (Use.histories uses name)

theorem Reached.last?_eq {creator : Creator} {history : List Call}
    (reached : Reached creator history) (cuckoo : creator.kind = .cuckoo) :
    creator.last? = history.getLast? := by
  obtain ⟨start, memory, uses, name⟩ := reached
  have fresh : Use.Tracks (fun name => ofKind (start name).1 (start name).2) fun _ => [] :=
    fun name _ => last?_ofKind (start name).1 (start name).2
  exact Use.tracks_run fresh uses name cuckoo

theorem exportConfig_cuckoo (config : Option Config) {call : Call} {default : Json.Value}
    (given : call.defaultJson? = some default) :
    (cuckoo config (some call)).exportConfig = pure (.ok (exported call default.json)) := by
  unfold Call.defaultJson? at given
  unfold exportConfig
  split at given
  · next unset =>
    obtain rfl := Option.some.inj given
    simp only [unset]
    rfl
  · next value set =>
    obtain rfl := Option.some.inj given
    simp only [set]
    rfl
  · cases given

/-- Only creators of hash tables export a mapping, and only for a call without a symbolic value. -/
theorem exportConfig_eq_ok {creator : Creator} {params : Json.Object}
    (succeeds : creator.exportConfig.value = .ok params) :
    ∃ config call default, creator = .cuckoo config (some call) ∧
      call.defaultJson? = some default ∧ exported call default.json = params := by
  cases creator with
  | redis config => cases succeeds
  | rocksDb config => cases succeeds
  | cuckoo config last =>
    cases last with
    | none => cases succeeds
    | some call =>
      cases given : call.defaultJson? with
      | some default =>
        rw [exportConfig_cuckoo config given] at succeeds
        exact ⟨config, call, default, rfl, given, Except.ok.inj succeeds⟩
      | none =>
        unfold Call.defaultJson? at given
        unfold exportConfig at succeeds
        split at given
        · cases given
        · cases given
        · next tensor symbolic =>
          simp only [symbolic] at succeeds
          cases succeeds

theorem Reached.exported_call {creator : Creator} {history : List Call} {params : Json.Object}
    (reached : Reached creator history) (succeeds : creator.exportConfig.value = .ok params) :
    ∃ call default, history.getLast? = some call ∧ call.defaultJson? = some default ∧
      exported call default.json = params := by
  obtain ⟨config, call, default, rfl, given, same⟩ := exportConfig_eq_ok succeeds
  exact ⟨call, default, (reached.last?_eq rfl).symm, given, same⟩

theorem exportConfig_of_told {σ Table : Type} {call : Call} {default : Json.Value}
    (given : call.defaultJson? = some default) {creator : Creator}
    (cuckoo : creator.kind = .cuckoo) (direct : Bool) (provider : Provider σ Table) (memory : σ) :
    (creator.createVia direct provider call.told memory).value.creator.exportConfig =
      pure (.ok (exported call default.json)) := by
  rw [createVia_creator]
  cases creator with
  | cuckoo config last => exact exportConfig_cuckoo config (call.defaultJson?_told.trans given)
  | redis config => cases cuckoo
  | rocksDb config => cases cuckoo

-- An exported mapping loses nothing but whether a default value was unset or null. The last call is
-- read back from it, whatever the files hold, and makes any creator of hash tables export the same
-- mapping. Two creators that export one mapping were called alike, each in a run of its own.
theorem Reached.exportConfig_faithful {creator : Creator} {history : List Call}
    {params : Json.Object} (reached : Reached creator history)
    (succeeds : creator.exportConfig.value = .ok params) :
    ∃ call, history.getLast? = some call ∧
      (∀ files, (Call.ofExported params).run files = Logged.silent (.ok call.told)) ∧
      call.told.Alike call ∧
      (∀ {σ Table : Type} (other : Creator) (direct : Bool) (provider : Provider σ Table)
        (memory : σ), other.kind = .cuckoo →
        (other.createVia direct provider call.told memory).value.creator.exportConfig =
          pure (.ok params)) ∧
      ∀ (other : Creator) (others : List Call), Reached other others →
        other.exportConfig.value = .ok params →
        ∃ last, others.getLast? = some last ∧ call.Alike last := by
  obtain ⟨call, default, last, given, rfl⟩ := reached.exported_call succeeds
  have readBack : Call.ofExported (exported call default.json) = pure call.told :=
    Call.ofExported_exported given
  refine ⟨call, last, fun files => ?_, Call.alike_of_told call.told_told,
    fun other direct provider memory cuckoo =>
      exportConfig_of_told given cuckoo direct provider memory,
    fun other others reachedOther succeedsOther => ?_⟩
  · rw [readBack, Reading.run_pure]
  · obtain ⟨otherCall, otherDefault, otherLast, otherGiven, same⟩ :=
      reachedOther.exported_call succeedsOther
    have otherReadBack : Call.ofExported (exported call default.json) = pure otherCall.told := by
      rw [← same]
      exact Call.ofExported_exported otherGiven
    -- Both calls are read back from the one mapping.
    have told : call.told = otherCall.told :=
      Reading.pure_inj (readBack.symm.trans otherReadBack)
    exact ⟨otherCall, otherLast, Call.alike_of_told told⟩

/-- A refused call without a default value and one on a clone with a default value of null. -/
theorem Reached.exportConfig_faithful_null :
    let unset : Call :=
      ⟨{ TableArgs.ofTypes .int64 .float16 with initSize := some 8 }, some (.rocksDb ⟨.empty⟩)⟩
    let null : Call := { unset with args.defaultValue := some (.concrete .null) }
    let refusing : Provider Unit Nat := .failing "out of memory" none
    let uses : List (Use Bool Unit Nat) := [.create false false refusing unset]
    let others : List (Use Bool (List Construction) Nat) :=
      [.clone false true, .create true true .recording null]
    let fresh (_ : Bool) : Creator := .ofKind .cuckoo none
    let creator := (Use.run uses ⟨fresh, ()⟩).value.2.creators false
    let other := (Use.run others ⟨fresh, []⟩).value.2.creators true
    creator.exportConfig.value = .ok (exported unset .null) ∧
    other.exportConfig.value = .ok (exported unset .null) ∧
    (Call.ofExported (exported unset .null)).run .initial = Logged.silent (.ok unset) ∧
    unset.Alike null := by
  intro unset null refusing uses others fresh creator other
  have reached : Reached creator [unset] := .byRun (fun _ => (.cuckoo, none)) () uses false
  have reachedOther : Reached other [null] := .byRun (fun _ => (.cuckoo, none)) [] others true
  have succeeds : creator.exportConfig.value = .ok (exported unset .null) := rfl
  have succeedsOther : other.exportConfig.value = .ok (exported unset .null) := rfl
  obtain ⟨call, last, readBack, -, -, alike⟩ := reached.exportConfig_faithful succeeds
  obtain rfl : unset = call := Option.some.inj last
  obtain ⟨otherCall, otherLast, same⟩ := alike other [null] reachedOther succeedsOther
  obtain rfl : null = otherCall := Option.some.inj otherLast
  exact ⟨succeeds, succeedsOther, readBack .initial, same⟩

end Creator

end KvTables
