import KvTables.Proofs.Creators.Uses
import KvTables.Proofs.Json.Arrangement

/-! What creators export.

A creator's history are the calls made on it, behind those its original had seen when it was cloned.
The last call of the history is all that a creator of hash tables keeps of it.
-/

set_option autoImplicit false

namespace KvTables

open Backend

variable {ι σ Table : Type}

namespace Creator

/-- The call on record, which only creators of hash tables have. -/
def last? : Creator → Option Call
  | .cuckoo _ last => last
  | _ => none

theorem kind_ofKind (kind : Kind) (config : Option Config) : (ofKind kind config).kind = kind := by
  cases kind <;> rfl

theorem kind_record (creator : Creator) (call : Call) :
    (creator.record call).kind = creator.kind := by
  cases creator <;> rfl

theorem last?_record {creator : Creator} (cuckoo : creator.kind = .cuckoo) (call : Call) :
    (creator.record call).last? = some call := by
  cases creator with
  | cuckoo config last => rfl
  | redis config => cases cuckoo
  | rocksDb config => cases cuckoo

theorem last?_ofKind (kind : Kind) (config : Option Config) :
    (ofKind kind config).last? = none := by
  cases kind <;> rfl

def exportedFields (call : Call) (defaultValue : Json) : List (String × Json) :=
  [("checkpoint", (call.args.checkpoint.map Json.bool).getD .null),
    ("config", (call.override.map fun config => (Json.Value.ofJson config.toJson).json).getD .null),
    ("default_value", defaultValue),
    ("init_size", (call.args.initSize.map fun size => Json.num (.ofCount size)).getD .null),
    ("key_dtype", .str call.args.keyDType.name),
    ("name", (call.args.name.map Json.str).getD .null),
    ("value_dtype", .str call.args.valueDType.name)]

theorem canonical_optional {α : Type} {write : α → Json}
    (plain : ∀ value, (write value).canonical = write value) (value : Option α) :
    ((value.map write).getD .null).canonical = (value.map write).getD .null := by
  cases value with
  | none => rfl
  | some value => exact plain value

theorem ofList_exported (keyDType valueDType default name checkpoint initSize config : Json) :
    Sorted.ofList [("key_dtype", keyDType), ("value_dtype", valueDType), ("default_value", default),
        ("name", name), ("checkpoint", checkpoint), ("init_size", initSize), ("config", config)] =
      [("checkpoint", checkpoint), ("config", config), ("default_value", default),
        ("init_size", initSize), ("key_dtype", keyDType), ("name", name),
        ("value_dtype", valueDType)] := by
  simp only [Sorted.ofList, List.foldl_cons, List.foldl_nil, Sorted.put, String.reduceLT,
    String.reduceEq, if_true, if_false]

theorem exported_fields (call : Call) (defaultValue : Json.Value) :
    (exported call defaultValue.json).fields = exportedFields call defaultValue.json := by
  have config : ((call.override.map Config.toJson).getD .null).canonical =
      (call.override.map fun config => (Json.Value.ofJson config.toJson).json).getD .null := by
    cases call.override <;> rfl
  have name := canonical_optional (fun _ => rfl : ∀ text, (Json.str text).canonical = .str text)
    call.args.name
  have checkpoint := canonical_optional
    (fun _ => rfl : ∀ value, (Json.bool value).canonical = .bool value) call.args.checkpoint
  have initSize := canonical_optional
    (fun _ => rfl : ∀ size, (Json.num (.ofCount size)).canonical = .num (.ofCount size))
    call.args.initSize
  have default := Json.canonical_eq_self defaultValue.json defaultValue.canonical
  simp only [exported, Json.Object.ofFields, Json.canonicalFields, config, name, checkpoint,
    initSize, default, Json.canonical, ofList_exported, exportedFields]

def exportOf (kind : Kind) (history : List Call) : Except Failure (List (String × Json)) :=
  match kind, history.getLast? with
  | .cuckoo, none => .error .noTableYet
  | .cuckoo, some call =>
    match call.args.defaultValue with
    | none => .ok (exportedFields call .null)
    | some (.concrete value) => .ok (exportedFields call value.json)
    | some (.symbolic _) => .error (.notEager .creatorConfig)
  | .redis, _ => .error (.notImplemented (.exportConfig .redis))
  | .rocksDb, _ => .error (.notImplemented (.exportConfig .rocksDb))

theorem exportOf_noTableYet (kind : Kind) (history : List Call) :
    exportOf kind history = .error .noTableYet ↔ kind = .cuckoo ∧ history = [] := by
  rw [← List.getLast?_eq_none_iff]
  unfold exportOf
  split
  · next none => simp [none]
  · next call some =>
    rw [some]
    split <;> simp
  · simp
  · simp

theorem exportOf_notEager (kind : Kind) (history : List Call) :
    exportOf kind history = .error (.notEager .creatorConfig) ↔ kind = .cuckoo ∧
      ∃ call tensor, history.getLast? = some call ∧
        call.args.defaultValue = some (.symbolic tensor) := by
  unfold exportOf
  split
  · next none => simp [none]
  · next call some =>
    rw [some]
    split
    · next default => simp [default]
    · next value default => simp [default]
    · next tensor default => simp [default]
  · simp
  · simp

theorem exportConfig_value {creator : Creator} {history : List Call}
    (recorded : creator.kind = .cuckoo → creator.last? = history.getLast?) :
    creator.exportConfig.value.map Json.Object.fields = exportOf creator.kind history := by
  cases creator with
  | redis config => rfl
  | rocksDb config => rfl
  | cuckoo config last =>
    have last_eq : last = history.getLast? := recorded rfl
    unfold kind exportOf
    rw [← last_eq]
    cases last with
    | none => rfl
    | some call =>
      unfold exportConfig
      dsimp only
      cases given : call.args.defaultValue with
      | none => exact congrArg Except.ok (exported_fields call .null)
      | some value =>
        cases value with
        | concrete value => exact congrArg Except.ok (exported_fields call value)
        | symbolic tensor => rfl

end Creator

theorem map_eq_error {ε α β : Type} {f : α → β} {error : ε} (computed : Except ε α) :
    computed.map f = .error error ↔ computed = .error error := by
  cases computed <;> simp [Except.map]

namespace Use

variable [DecidableEq ι]

def extend (histories : ι → List Call) : Use ι σ Table → ι → List Call
  | .make name _ _ => Function.update histories name []
  | .clone original copy => Function.update histories copy (histories original)
  | .create name _ _ call => Function.update histories name (histories name ++ [call])
  | .exportConfig _ => histories

def histories (uses : List (Use ι σ Table)) : ι → List Call := uses.foldl extend fun _ => []

def retype (kinds : ι → Kind) : Use ι σ Table → ι → Kind
  | .make name kind _ => Function.update kinds name kind
  | .clone original copy => Function.update kinds copy (kinds original)
  | .create _ _ _ _ | .exportConfig _ => kinds

/-- The kind that a creator was last made with, or that its original was when it was cloned. -/
def kinds (start : ι → Kind) (uses : List (Use ι σ Table)) : ι → Kind := uses.foldl retype start

theorem kind_update (creators : ι → Creator) (changed : ι) (creator : Creator) :
    (fun name => (Function.update creators changed creator name).kind) =
      Function.update (fun name => (creators name).kind) changed creator.kind := by
  funext name
  by_cases same : name = changed
  · subst same
    rw [Function.update_self, Function.update_self]
  · rw [Function.update_of_ne same, Function.update_of_ne same]

theorem kind_step (state : State ι σ) (use : Use ι σ Table) :
    (fun name => ((step state use).value.2.creators name).kind) =
      retype (fun name => (state.creators name).kind) use := by
  cases use with
  | exportConfig name => rfl
  | make name kind config =>
    have updated := kind_update state.creators name (.ofKind kind config)
    rw [Creator.kind_ofKind] at updated
    exact updated
  | clone original copy => exact kind_update state.creators copy (state.creators original)
  | create name direct provider call =>
    rw [step_create, kind_update, Creator.kind_record]
    exact Function.update_eq_self name _

theorem kind_run (uses : List (Use ι σ Table)) (state : State ι σ) :
    (fun name => ((run uses state).value.2.creators name).kind) =
      kinds (fun name => (state.creators name).kind) uses := by
  induction uses generalizing state with
  | nil => rfl
  | cons use rest ih =>
    rw [run_cons, kinds, List.foldl_cons, ← kind_step]
    exact ih (step state use).value.2

/-- Every creator of hash tables has the last call of its history on record. -/
def Tracks (creators : ι → Creator) (histories : ι → List Call) : Prop :=
  ∀ name, (creators name).kind = .cuckoo → (creators name).last? = (histories name).getLast?

theorem Tracks.update {creators : ι → Creator} {histories : ι → List Call}
    (tracks : Tracks creators histories) (changed : ι) {creator : Creator} {history : List Call}
    (recorded : creator.kind = .cuckoo → creator.last? = history.getLast?) :
    Tracks (Function.update creators changed creator)
      (Function.update histories changed history) := by
  intro name cuckoo
  by_cases same : name = changed
  · subst same
    rw [Function.update_self] at cuckoo ⊢
    rw [Function.update_self]
    exact recorded cuckoo
  · rw [Function.update_of_ne same] at cuckoo ⊢
    rw [Function.update_of_ne same]
    exact tracks name cuckoo

theorem tracks_step {state : State ι σ} {histories : ι → List Call}
    (tracks : Tracks state.creators histories) (use : Use ι σ Table) :
    Tracks (step state use).value.2.creators (extend histories use) := by
  cases use with
  | exportConfig name => exact tracks
  | make name kind config => exact tracks.update name fun _ => Creator.last?_ofKind kind config
  | clone original copy => exact tracks.update copy (tracks original)
  -- The call is on record whether or not a table came of it.
  | create name direct provider call =>
    rw [step_create]
    refine tracks.update name fun cuckoo => ?_
    rw [Creator.kind_record] at cuckoo
    rw [Creator.last?_record cuckoo, List.getLast?_append, List.getLast?_singleton, Option.some_or]

theorem tracks_run {state : State ι σ} {histories : ι → List Call}
    (tracks : Tracks state.creators histories) (uses : List (Use ι σ Table)) :
    Tracks (run uses state).value.2.creators (uses.foldl extend histories) := by
  induction uses generalizing state histories with
  | nil => exact tracks
  | cons use rest ih => exact ih (tracks_step tracks use)

-- Over any run of uses from fresh creators on. A creator is of the kind it was made with, answers
-- from its history alone, asking it changes nothing, and nothing that is done to other creators later
-- on changes the answer.
theorem exportConfig_of_run (start : ι → Kind × Option Config) (memory : σ)
    (uses : List (Use ι σ Table)) (name : ι) :
    let state := (run uses ⟨fun name => .ofKind (start name).1 (start name).2, memory⟩).value.2
    let creator := state.creators name
    let history := histories uses name
    let answer := creator.exportConfig.value
    creator.kind = kinds (fun name => (start name).1) uses name ∧
    answer.map Json.Object.fields = Creator.exportOf creator.kind history ∧
    (answer = .error .noTableYet ↔ creator.kind = .cuckoo ∧ history = []) ∧
    (answer = .error (.notEager .creatorConfig) ↔ creator.kind = .cuckoo ∧
      ∃ call tensor, history.getLast? = some call ∧
        call.args.defaultValue = some (.symbolic tensor)) ∧
    (step state (.exportConfig name : Use ι σ Table)).value = (.exported answer, state) ∧
    ∀ later : List (Use ι σ Table), (∀ use ∈ later, use.changes ≠ some name) →
      ((run later state).value.2.creators name).exportConfig = creator.exportConfig := by
  intro state creator history answer
  have tracks : Tracks state.creators (histories uses) :=
    tracks_run (fun name _ => Creator.last?_ofKind (start name).1 (start name).2) uses
  have exported : answer.map Json.Object.fields = Creator.exportOf creator.kind history :=
    Creator.exportConfig_value (tracks name)
  have fresh : (fun name => (Creator.ofKind (start name).1 (start name).2).kind) =
      fun name => (start name).1 := funext fun name => Creator.kind_ofKind _ _
  have kind : creator.kind = kinds (fun name => (start name).1) uses name := by
    rw [← fresh]
    exact congrFun (kind_run uses _) name
  refine ⟨kind, exported, ?_, ?_, rfl, fun later others => ?_⟩
  · rw [← Creator.exportOf_noTableYet, ← exported]
    exact (map_eq_error answer).symm
  · rw [← Creator.exportOf_notEager, ← exported]
    exact (map_eq_error answer).symm
  · exact congrArg Creator.exportConfig (run_others later state others)

/-- A refused call is exported all the same, and calls on a clone do not reach the original. -/
theorem exportConfig_of_original :
    let call : Call := ⟨.ofTypes .int64 .float32, none⟩
    let deferred : Call := ⟨{ call.args with defaultValue := some (.symbolic "zeros:0") }, none⟩
    let refusing : Provider Unit Nat := .failing "out of memory" none
    let uses : List (Use Bool Unit Nat) := [.create false false refusing call, .clone false true]
    let later : List (Use Bool Unit Nat) := [.create true false refusing deferred]
    let state := (run uses ⟨fun _ => .ofKind .cuckoo none, ()⟩).value.2
    (∀ use ∈ later, use.changes ≠ some false) ∧
    (state.creators false).exportConfig.value.map Json.Object.fields =
      .ok (Creator.exportedFields call .null) ∧
    ((run later state).value.2.creators false).exportConfig =
      (state.creators false).exportConfig := by
  intro call deferred refusing uses later state
  have others : ∀ use ∈ later, use.changes ≠ some false := by
    intro use member
    obtain rfl := List.mem_singleton.1 member
    decide
  obtain ⟨-, exported, -, -, -, kept⟩ := exportConfig_of_run (fun _ => (.cuckoo, none)) () uses false
  exact ⟨others, exported, kept later others⟩

end Use

end KvTables
