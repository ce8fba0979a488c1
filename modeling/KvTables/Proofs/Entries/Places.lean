import KvTables.Proofs.Agreement.Tagged
import KvTables.Proofs.Entries.Parameters
import KvTables.Proofs.Reading.Settled
import KvTables.Proofs.Recovery.Document

/-! A backend means the same in every place it may be written.

Its fields can stand alone, beside a tag, beside a tag and a name, or in the place of a reference. What
stands beside them is taken out, and the rest is read from values kept aside exactly as it would be read
on its own.
-/

set_option autoImplicit false

namespace KvTables

variable {α ν : Type} [Source ν] (rendering : Rendering ν)

namespace Buffer

/-! What is kept aside of a tree answers a config as the tree does, in its faults as well. -/

theorem text_ofJson (expected : String) (json : Json) :
    Source.text expected (ofJson json) = Source.text expected json := by
  cases json <;> rfl

theorem optional_ofJson {read : Json → Reading α} {other : Buffer → Reading α}
    (same : ∀ json, other (ofJson json) = read json) (json : Json) :
    Reading.optional other (ofJson json) = Reading.optional read json := by
  cases json with
  | null => rfl
  | _ => exact congrArg (some <$> ·) (same _)

theorem object_ofJson (json : Json) : Reading.object (ofJson json) = Reading.object json := by
  cases json with
  | obj fields =>
    have kept : Reading.object (ofJson (.obj fields)) = pure (.ofFields fields) :=
      faithful.object ⟨0, rfl, rfl⟩
    have alone : Reading.object (Json.obj fields) = pure (.ofFields fields) :=
      Json.faithful.object ⟨0, rfl, rfl⟩
    rw [kept, alone]
  | _ => rfl

theorem record_ofJson {F : Type} [DecidableEq F] {Value : F → Type} {shape : Shape F Value}
    {readField : (field : F) → Json → Reading (Value field)}
    {otherField : (field : F) → Buffer → Reading (Value field)}
    (same : ∀ field json, otherField field (ofJson json) = readField field json)
    (fields : List (String × Json)) :
    shape.read otherField (ofJson (.obj fields)) = shape.read readField (.obj fields) := by
  have pairs : shape.readPairs otherField (ofFields fields) Slots.empty =
      shape.readPairs readField (fields.map fun field => (.str field.1, field.2)) Slots.empty := by
    have spellsKept : ∀ text, Spells (Buffer.text text) text :=
      fun text => ⟨fun _ => rfl, fun _ => rfl, fun _ => rfl⟩
    have spellsAlone : ∀ text, Spells (Json.str text) text :=
      fun text => ⟨fun _ => rfl, fun _ => rfl, fun _ => rfl⟩
    rw [ofFields_eq_map,
      Shape.readPairs_eq_readGiven (fun _ json => ofJson json) spellsKept fields fun _ _ => rfl,
      Shape.readPairs_eq_readGiven (fun _ json => json) spellsAlone fields fun _ _ => rfl]
    simp only [Shape.given, same]
  have kept : shape.read otherField (ofJson (.obj fields)) =
      shape.readParts otherField (.entries (entriesOf (ofFields fields))) := rfl
  have alone : shape.read readField (.obj fields) =
      shape.readParts readField (.entries (Json.entriesOf fields)) := rfl
  rw [kept, alone, Shape.readParts, Shape.readParts]
  exact congrArg (· >>= _) pairs

end Buffer

namespace Reading

variable {β : Type}

theorem run_map (reading : Reading α) (f : α → β) (files : Files) :
    (f <$> reading).run files = (reading.run files).map (·.map f) := by
  rw [map_eq_pure_bind]
  change (andThen reading _).run files = _
  simp only [run, andThen, Logged.map]
  cases (reading files 0).result with
  | error fault => rfl
  | ok value => simp [Except.map, pure, succeed]

theorem run_onFault (reading : Reading α) (change : Fault → Fault) (files : Files) :
    (reading.onFault change).run files = (reading.run files).map (·.mapError change) := rfl

end Reading

namespace Json.Object

def keys (object : Object) : List String := object.fields.map (·.1)

def toValue (object : Object) : Value := ⟨object.toJson, object.canonical⟩

def adding (object : Object) (key : String) (value : Json) : Object :=
  .ofFields ((key, value) :: object.fields)

variable (object : Object) {key : String} (fresh : key ∉ object.keys) (value : Json)

theorem nodup_keys : object.keys.Nodup := object.canonical.1.nodup

include fresh

theorem adding_perm : (object.adding key value).fields.Perm
    ((key, value.canonical) :: object.fields) := by
  have distinct : (((key, value) :: object.fields).map (·.1)).Nodup :=
    List.nodup_cons.2 ⟨fresh, object.nodup_keys⟩
  have permuted := ofList_canonicalFields_perm distinct
  rw [canonicalFields, canonicalFields_eq_self object.fields object.canonical.2] at permuted
  rw [adding, ofFields]
  simp only [canonicalFields, canonicalFields_eq_self object.fields object.canonical.2]
  exact permuted

/-- Without the new field the object is what it was. -/
theorem filter_adding :
    ((object.adding key value).fields.filter fun field => field.1 ≠ key) = object.fields := by
  have filtered := Sorted.filter_ofList (fun name => name ≠ key)
    (canonicalFields ((key, value) :: object.fields))
  rw [← canonicalFields_filter (fun name => name ≠ key), List.filter_cons_of_neg (by simp),
    filter_fresh fresh, canonicalFields_eq_self object.fields object.canonical.2,
    Sorted.ofList_eq_self object.canonical.1] at filtered
  exact filtered

end Json.Object

def Form.ofKind : Backend.Kind → Form
  | .cuckoo => .cuckoo
  | .redis => .redis
  | .rocksDb => .rocksDb

namespace Backend

theorem Redis.readField_ofJson (field : Field) (json : Json) :
    readField field (Buffer.ofJson json) = readField field json := by
  cases field <;> exact Buffer.optional_ofJson (Buffer.text_ofJson _) json

theorem RocksDb.readField_ofJson (field : Field) (json : Json) :
    readField field (Buffer.ofJson json) = readField field json := by
  cases field with
  | src => exact Buffer.optional_ofJson (Buffer.text_ofJson _) json
  | params => exact Buffer.optional_ofJson Buffer.object_ofJson json

namespace Config

def ofKind : (kind : Kind) → (Form.ofKind kind).Value → Config
  | .cuckoo => .cuckoo
  | .redis => .redis
  | .rocksDb => .rocksDb

/-- The fields beside a tag are read as they are on their own. -/
theorem readAs_eq (kind : Kind) (fields : List (String × Json)) :
    readAs (.mapping (Buffer.ofFields fields)) kind =
      ofKind kind <$> (Form.ofKind kind).read (Json.obj fields) := by
  cases kind with
  | cuckoo =>
    have same : Cuckoo.read (Buffer.ofJson (.obj fields)) = Cuckoo.read (Json.obj fields) :=
      congrArg (· >>= _) (Buffer.record_ofJson (fun field => field.elim) fields)
    exact congrArg (Config.cuckoo <$> ·) same
  | redis =>
    have same : Redis.read (Buffer.ofJson (.obj fields)) = Redis.read (Json.obj fields) :=
      congrArg (· >>= _) (Buffer.record_ofJson Redis.readField_ofJson fields)
    exact congrArg (Config.redis <$> ·) same
  | rocksDb =>
    have same : RocksDb.read (Buffer.ofJson (.obj fields)) = RocksDb.read (Json.obj fields) :=
      congrArg (· >>= _) (Buffer.record_ofJson RocksDb.readField_ofJson fields)
    exact congrArg (Config.rocksDb <$> ·) same

variable (unbounded : ∀ level, Reading.allows rendering.deepest level)

include unbounded

/-- Wherever the tag stands among distinct fields, the others are those of a config of its kind. -/
theorem read_tagged {kind : Kind} {fields : List (String × Json)}
    (distinct : (fields.map (·.1)).Nodup) (tagged : (tag, .str kind.name) ∈ fields) (level : Nat) :
    read (rendering.render level (.obj fields)) =
      ofKind kind <$> (Form.ofKind kind).read
        (Json.obj (fields.filter fun field => field.1 ≠ tag)) := by
  rw [read, rendering.place, rendering.tagged, rendering.entries_eq,
    Reading.upTo_of_allows (unbounded _), ← readAs_eq]
  simp only [map_pure, pure_bind, readParts,
    splits_tag.takes (unbounded _) kind fields distinct tagged, Reading.upTo_of_allows (unbounded _)]

end Config

/-- The name is taken out before the tag is looked for. -/
theorem Named.read_tagged (unbounded : ∀ level, Reading.allows rendering.deepest level) {kind : Kind}
    {id : String} {fields : List (String × Json)} (distinct : (fields.map (·.1)).Nodup)
    (named : ("id", .str id) ∈ fields)
    (tagged : (Config.tag, .str kind.name) ∈ fields.filter fun field => field.1 ≠ "id")
    (level : Nat) :
    read (rendering.render level (.obj fields)) =
      (fun config => Named.mk id (Config.ofKind kind config)) <$> (Form.ofKind kind).read
        (Json.obj ((fields.filter fun field => field.1 ≠ "id").filter fun field =>
          field.1 ≠ Config.tag)) := by
  have remaining : ((fields.filter fun field => field.1 ≠ "id").map (·.1)).Nodup :=
    (List.filter_sublist.map _).nodup distinct
  have config : Config.read (Buffer.mapping
        (Buffer.ofFields (fields.filter fun field => field.1 ≠ "id"))) = _ :=
    Config.read_tagged Buffer.rendering (fun _ => rfl) remaining tagged 0
  rw [read, rendering.place, rendering.entries_eq, Reading.upTo_of_allows (unbounded _), pure_bind,
    splits_id.takes (unbounded _) id fields distinct named, Reading.upTo_of_allows (unbounded _)]
  simp only [pure_bind, config, map_eq_pure_bind, bind_assoc]

namespace RocksDb

/-- Loading a file logs one line, whatever comes of it. -/
theorem log_fromPath (path : String) (files : Files) : (fromPath path files).log.length = 1 := by
  rw [fromPath]
  split
  · rfl
  · next content _ =>
    have silent : ((Json.readText Reading.object content).run files).log = [] :=
      (Json.Cursor.settled_readText Json.Cursor.settling.object content).log_run files
    change (List.length (_ ++ _)) = 1
    rw [silent]
    cases ((Json.readText Reading.object content).run files).value <;> rfl

theorem settled_fields (json : Json) : (shape.read readField json).Settled :=
  Json.settling.read Json.settling.rocksDbField json

end RocksDb

/-- A config that stands alone logs at most the line of a single file. -/
theorem log_ofKind (kind : Kind) (json : Json) (files : Files) :
    (((Form.ofKind kind).read json).run files).log = [] ∨
      ∃ path, (((Form.ofKind kind).read json).run files).log =
        (RocksDb.fromPath path files).log := by
  cases kind with
  | cuckoo => exact .inl ((Json.settling.cuckoo json).log_run files)
  | redis => exact .inl ((Json.settling.redis json).log_run files)
  | rocksDb =>
    change ((RocksDb.read json).run files).log = [] ∨ ∃ path, ((RocksDb.read json).run files).log = _
    rw [RocksDb.read]
    have settled := RocksDb.settled_fields json
    generalize RocksDb.shape.read RocksDb.readField json = fields at settled ⊢
    cases settled with
    | fault fault => exact .inl rfl
    | @value slots =>
      rw [pure_bind, Reading.run_consult]
      change (RocksDb.Written.load _ files).log = [] ∨ ∃ path, (RocksDb.Written.load _ files).log = _
      unfold RocksDb.Written.load
      split
      · next path _ _ => exact .inr ⟨path, rfl⟩
      · exact .inl rfl
      · exact .inl rfl
      · exact .inl rfl

end Backend

namespace Form

open Backend

/-- A backend without a name or a tag of its own is read alike alone, beside its tag, beside its tag
and a name, and in the place of a reference, which does not report what is wrong with it. All log the
lines of one file at most. -/
theorem readValue_places (object : Json.Object) (untagged : Config.tag ∉ object.keys)
    (unnamed : "id" ∉ object.keys) (kind : Kind) (id : String) (files : Files) :
    let alone := ((Form.ofKind kind).readValue object.toValue).run files
    let tagged := object.adding Config.tag (.str kind.name)
    (Form.readValue .config tagged.toValue).run files = alone.map (·.map (Config.ofKind kind)) ∧
    (Form.readValue .named (tagged.adding "id" (.str id)).toValue).run files =
      alone.map (·.map fun config => Named.mk id (Config.ofKind kind config)) ∧
    (Form.readValue .reference tagged.toValue).run files =
      alone.map (fun result => (result.map fun config =>
        Reference.inline (Config.ofKind kind config)).mapError
          fun _ => .mismatch none (.noVariant "BackendRef")) ∧
    (∀ dialect, (Fault.mismatch none (.noVariant "BackendRef")).message dialect =
      "data did not match any variant of untagged enum BackendRef") ∧
    (alone.log = [] ∨ ∃ path, alone.log = (RocksDb.fromPath path files).log) ∧
    ∀ path, (RocksDb.fromPath path files).log.length = 1 := by
  intro alone tagged
  have stands : (Config.tag, .str kind.name) ∈ tagged.fields :=
    (object.adding_perm untagged (.str kind.name)).symm.subset List.mem_cons_self
  have others : (tagged.fields.filter fun field => field.1 ≠ Config.tag) = object.fields :=
    object.filter_adding untagged (.str kind.name)
  have config : Config.read tagged.toJson =
      Config.ofKind kind <$> (Form.ofKind kind).read object.toJson := by
    have read := Config.read_tagged Json.rendering (fun _ => rfl) tagged.nodup_keys stands 0
    rwa [others] at read
  have fresh : "id" ∉ tagged.keys := by
    intro member
    have keys := (object.adding_perm untagged (.str kind.name)).map (·.1)
    rcases List.mem_cons.1 (keys.subset member) with same | inside
    · exact absurd (show "id" = Config.tag from same) (by decide)
    · exact unnamed inside
  refine ⟨?_, ?_, ?_, fun _ => rfl, Backend.log_ofKind kind object.toJson files, fun path =>
    RocksDb.log_fromPath path files⟩
  · exact (congrArg (Reading.run · files) config).trans (Reading.run_map _ _ _)
  -- The name is taken out first, and the tag is still among the rest.
  · have rest := tagged.filter_adding fresh (.str id)
    have read := Named.read_tagged Json.rendering (fun _ => rfl)
      (tagged.adding "id" (.str id)).nodup_keys
      ((tagged.adding_perm fresh (.str id)).symm.subset List.mem_cons_self)
      (by rw [rest]; exact stands) 0
    rw [rest, others] at read
    exact (congrArg (Reading.run · files) read).trans (Reading.run_map _ _ _)
  -- An inline config is kept aside before it is read, and its fault is replaced.
  · have kept : Config.read (Buffer.mapping (Buffer.ofFields tagged.fields)) =
        Config.ofKind kind <$> (Form.ofKind kind).read object.toJson := by
      have read := Config.read_tagged Buffer.rendering (fun _ => rfl) tagged.nodup_keys stands 0
      rwa [others] at read
    have read : Reference.read tagged.toJson = _ := Reference.read_object rfl
    rw [kept, ← comp_map] at read
    refine (congrArg (Reading.run · files) read).trans ?_
    rw [Reading.run_onFault, Reading.run_map]
    rfl

/-- A config that names its file under a key that others would take for a tag. -/
def strayFields : Json.Object := .ofFields [("src", .str "params.json"), ("type", .str "redis")]

theorem readValue_places_stray :
    Config.tag ∉ strayFields.keys ∧ "id" ∉ strayFields.keys ∧
    (Form.readValue .config (strayFields.adding Config.tag (.str Kind.rocksDb.name)).toValue).run
        .initial =
      ((Form.readValue .rocksDb strayFields.toValue).run .initial).map
        (·.map (Config.ofKind .rocksDb)) ∧
    ((Form.readValue .rocksDb strayFields.toValue).run .initial).log =
      [⟨.error, "Failed to read RocksDB config 'params.json': No such file or directory (os error 2)"⟩] := by
  have untagged : Config.tag ∉ strayFields.keys := by decide
  have unnamed : "id" ∉ strayFields.keys := by decide
  have places := readValue_places strayFields untagged unnamed .rocksDb "store" .initial
  exact ⟨untagged, unnamed, places.1, by rfl⟩

end Form

end KvTables
