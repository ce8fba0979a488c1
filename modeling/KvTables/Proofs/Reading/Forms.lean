import KvTables.Form
import KvTables.Proofs.Reading.Answers
import Mathlib.Data.List.Basic
import Mathlib.Tactic.SplitIfs

/-! A value that is read, whatever its form and its notation, promises what its source does.

Only where a config loads a file does the promise have to be made of the loading as well. The attempt at
an inline config is the one reading whose failure is not passed on, and it is the last one made.
-/

set_option autoImplicit false

namespace KvTables

open Backend
open Reading (Keeps KeepsTo Promise)

variable {α ν : Type} {promise : Promise}

namespace Reading.Promise

structure OnFiles (promise : Promise) : Prop where
  load (written : RocksDb.Written) : Keeps promise (consult fun files =>
    (written.load files).map (·.mapError fun failure => .refused failure.message))

/-- Promises of every reading there is: an attempt makes them too, if it is given up unless it
succeeds. -/
structure Throughout (promise : Promise) : Prop extends promise.OnNodes, promise.OnFiles where
  attempt {α β : Type} {reading : Reading α} {next : Except Fault α → Reading β}
    (keeps : reading.Keeps promise) (goesOn : ∀ value, (next (.ok value)).Keeps promise)
    (givesUp : ∀ fault, ∃ other, next (.error fault) = fail other) :
    Keeps promise (attempt reading >>= next)

end Reading.Promise

namespace Backend.Named

def fields [Source ν] (value : ν) : Reading (Option String × List (Buffer × Buffer)) := do
  let entries ← Source.entries "struct NamedBackendConfig" value
  let split ← splitId entries.pairs none
  entries.past
  pure split

def finish : Option String × List (Buffer × Buffer) → Reading Named
  | (none, _) => Reading.mismatch (.missingField "id")
  | (some id, fields) => do return ⟨id, ← Config.read (Buffer.mapping fields)⟩

theorem read_eq [Source ν] (value : ν) :
    read value = Source.place value (fields value >>= finish) := by
  unfold read fields
  refine congrArg _ ?_
  simp only [bind_assoc, pure_bind]
  refine bind_congr fun entries => bind_congr fun split => bind_congr fun _ => ?_
  obtain ⟨_ | id, kept⟩ := split <;> rfl

end Backend.Named

namespace Answers

variable [Source ν] (answers : Answers promise ν)

include answers

theorem dtype (value : ν) : (DType.read value).Keeps promise := answers.bare _ value

theorem defaultValue (value : ν) : (DefaultValue.read value).Keeps promise := by
  refine answers.withPayload (fun variant member payload => ?_) value
  rcases List.mem_pair.1 member with rfl | rfl
  · exact (answers.json payload).bind fun _ => .pure _
  · exact (answers.text _ payload).bind fun _ => .pure _

theorem tableArgs (value : ν) : (TableArgs.read value).Keeps promise := by
  refine (answers.read (fun field value => ?_) value).bind fun fields => .pure _
  cases field with
  | keyDType | valueDType => exact answers.dtype value
  | defaultValue => exact answers.optionally answers.defaultValue value
  | name => exact answers.optionally (answers.text _) value
  | checkpoint => exact answers.optionally answers.flag value
  | initSize => exact answers.optionally answers.count value

theorem cuckoo (value : ν) : (Cuckoo.read value).Keeps promise :=
  (answers.read (fun field => field.elim) value).bind fun _ => .pure _

theorem redisField (field : Redis.Field) (value : ν) : (Redis.readField field value).Keeps promise := by
  cases field <;> exact answers.optionally (answers.text _) value

theorem redis (value : ν) : (Redis.read value).Keeps promise :=
  (answers.read answers.redisField value).bind fun _ => .pure _

theorem rocksDbField (field : RocksDb.Field) (value : ν) :
    (RocksDb.readField field value).Keeps promise := by
  cases field with
  | src => exact answers.optionally (answers.text _) value
  | params => exact answers.optionally answers.object value

theorem rocksDb (onFiles : promise.OnFiles) (value : ν) : (RocksDb.read value).Keeps promise :=
  (answers.read answers.rocksDbField value).bind fun _ => onFiles.load _

theorem options (value : ν) : (RocksDb.Options.read value).Keeps promise := by
  refine (answers.read (fun field value => ?_) value).bind fun fields => .pure _
  cases field with
  | databasePath | embeddingName => exact answers.text _ value
  | readOnly | estimateSize => exact answers.flag value
  | exportPath => exact answers.optionally (answers.text _) value

theorem tag (value : ν) : (Config.readTag value).Keeps promise :=
  answers.place value ((answers.name _ value).bind fun name =>
    Answers.pick _ (fun _ _ => trivial) name)

theorem splitTag (entries : List (ν × ν)) (found : Option Kind) :
    (Config.splitTag entries found).Keeps promise := by
  induction entries generalizing found with
  | nil => exact .pure _
  | cons entry rest ih =>
    obtain ⟨key, value⟩ := entry
    refine (answers.buffer _ key).bind fun kept => ?_
    dsimp only
    split_ifs
    · exact .mismatch _
    · exact (answers.tag value).bind fun kind => ih _
    · exact (answers.buffer _ value).bind fun aside => (ih _).bind fun _ => .pure _

theorem taggedParts {parts : Parts ν} (keeps : parts.Keep promise) :
    (Config.readParts parts).Keeps promise := by
  cases parts with
  | items items =>
    rw [Config.readParts]
    split
    · exact Keeps.bind keeps.1 fun _ => .mismatch _
    · next first rest _ =>
      refine (answers.tag first).bind fun kind => ?_
      exact (each (answers.buffer _) rest).bind fun fields => Keeps.bind keeps.1 fun _ => .pure _
  | entries entries =>
    rw [Config.readParts]
    refine (answers.splitTag entries.pairs none).bind fun split => Keeps.bind keeps fun _ => ?_
    obtain ⟨_ | kind, fields⟩ := split
    · exact .mismatch _
    · exact .pure _

theorem config (onFiles : promise.OnFiles) (value : ν) : (Config.read value).Keeps promise := by
  refine Keeps.bind (answers.place value (KeepsTo.bind (answers.tagged _ value)
    fun parts keeps => answers.taggedParts keeps)) fun kept => ?_
  obtain ⟨kind, fields⟩ := kept
  cases kind with
  | cuckoo => exact (Buffer.answers.cuckoo fields).map _
  | redis => exact (Buffer.answers.redis fields).map _
  | rocksDb => exact (Buffer.answers.rocksDb onFiles fields).map _

theorem kind (value : ν) : (Kind.read value).Keeps promise := answers.bare _ value

theorem tableSpec (onFiles : promise.OnFiles) (value : ν) : (TableSpec.read value).Keeps promise := by
  refine (answers.read (fun field value => ?_) value).bind fun fields => .pure _
  cases field with
  | backend => exact answers.kind value
  | args => exact answers.tableArgs value
  | config => exact answers.optionally (answers.config onFiles) value

theorem splitId (entries : List (ν × ν)) (found : Option String) :
    (Named.splitId entries found).Keeps promise := by
  induction entries generalizing found with
  | nil => exact .pure _
  | cons entry rest ih =>
    obtain ⟨key, value⟩ := entry
    refine (answers.text _ key).bind fun text => ?_
    dsimp only
    split
    · split
      · exact .mismatch _
      · exact (answers.text _ value).bind fun id => ih _
    · exact (answers.buffer _ value).bind fun aside => (ih _).bind fun _ => .pure _

theorem fields (value : ν) : (Named.fields value).Keeps promise :=
  KeepsTo.bind (answers.entries _ value) fun entries past =>
    (answers.splitId entries.pairs none).bind fun split => Keeps.bind past fun _ => .pure split

omit [Source ν] answers in
theorem finish (onFiles : promise.OnFiles) (split : Option String × List (Buffer × Buffer)) :
    (Named.finish split).Keeps promise := by
  obtain ⟨_ | id, fields⟩ := split
  · exact .mismatch _
  · exact (Buffer.answers.config onFiles (.mapping fields)).bind fun _ => .pure _

theorem named (onFiles : promise.OnFiles) (value : ν) : (Named.read value).Keeps promise := by
  rw [Named.read_eq]
  exact answers.place value ((answers.fields value).bind (finish onFiles))

theorem document (onFiles : promise.OnFiles) (value : ν) : (Document.read value).Keeps promise :=
  (answers.read (fun _ value => answers.list (answers.named onFiles) value) value).bind fun _ => .pure _

theorem reference (throughout : promise.Throughout) (value : ν) :
    (Reference.read value).Keeps promise := by
  refine (answers.buffer _ value).bind fun kept => ?_
  split
  · exact .pure _
  -- Whatever an inline config fails with, one fault takes its place.
  · exact throughout.attempt (Buffer.answers.config throughout.toOnFiles kept) (fun config => .pure _)
      fun fault => ⟨_, rfl⟩

theorem form (throughout : promise.Throughout) (form : Form) (value : ν) :
    (form.read value).Keeps promise := by
  cases form with
  | dtype => exact answers.dtype value
  | defaultValue => exact answers.defaultValue value
  | tableArgs => exact answers.tableArgs value
  | tableSpec => exact answers.tableSpec throughout.toOnFiles value
  | kind => exact answers.kind value
  | cuckoo => exact answers.cuckoo value
  | redis => exact answers.redis value
  | rocksDb => exact answers.rocksDb throughout.toOnFiles value
  | rocksDbOptions => exact answers.options value
  | config => exact answers.config throughout.toOnFiles value
  | named => exact answers.named throughout.toOnFiles value
  | reference => exact answers.reference throughout value
  | document => exact answers.document throughout.toOnFiles value

end Answers

/-! ### Whole texts -/

theorem Json.keeps_readText (onText : promise.OnText) {read : Json.Cursor → Reading α}
    (keeps : ∀ cursor, (read cursor).Keeps promise) (text : String) :
    (Json.readText read text).Keeps promise := by
  rw [readText]
  cases Draft.ofText text with
  | mk draft rest =>
    refine (keeps ⟨draft, deepest⟩).bind fun value => ?_
    split
    · exact .pure value
    · exact onText.broken _

theorem Yaml.keeps_readText (throughout : promise.Throughout) {read : Yaml.Cursor → Reading α}
    (keeps : ∀ cursor, (read cursor).Keeps promise) (text : String) :
    (Yaml.readText read text).Keeps promise := by
  refine throughout.attempt (keeps _) (fun value => ?_) fun fault => ⟨_, rfl⟩
  dsimp only
  split
  · exact .pure _
  · exact throughout.broken _

namespace Form

variable (throughout : promise.Throughout) (form : Form)

include throughout

theorem keeps_readText (text : String) : (form.readText text).Keeps promise :=
  Json.keeps_readText throughout.toOnText
    ((Json.Cursor.answers throughout.toOnText).form throughout form) text

theorem keeps_readValue (value : Json.Value) : (form.readValue value).Keeps promise :=
  Json.answers.form throughout form value.json

theorem keeps_readYaml (text : String) : (form.readYaml text).Keeps promise :=
  Yaml.keeps_readText throughout
    ((Yaml.Cursor.answers throughout.toOnNodes).form throughout form) text

end Form

end KvTables
