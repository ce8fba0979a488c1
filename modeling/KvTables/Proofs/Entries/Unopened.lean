import KvTables.Proofs.Entries.Sources

/-! Which configs are read without opening a file.

Only the tag of RocksDB in front of a source that is a path alone leads to a file. Every other tree, in
order or not, settles what it is read as.
-/

set_option autoImplicit false

namespace KvTables

open Reading (Settled)

variable {α ν : Type}

namespace Json

theorem lookup_filter {key other : String} (different : key ≠ other) (fields : List (String × Json)) :
    (fields.filter fun field => field.1 ≠ other).lookup key = fields.lookup key := by
  induction fields with
  | nil => rfl
  | cons field rest ih =>
    obtain ⟨name, value⟩ := field
    by_cases dropped : name = other
    · subst dropped
      rw [List.filter_cons_of_neg (by simp), ih, List.lookup_cons, beq_false_of_ne different]
    · rw [List.filter_cons_of_pos (by simpa using dropped), List.lookup_cons, List.lookup_cons, ih]

theorem canonical_filter {fields : List (String × Json)} (canonical : (obj fields).Canonical)
    (keep : String × Json → Bool) : (obj (fields.filter keep)).Canonical :=
  ⟨canonical.1.filter keep, canonicalFields_iff.2 fun _ member =>
    canonicalFields_iff.1 canonical.2 _ (List.mem_of_mem_filter member)⟩

end Json

namespace Buffer

theorem settled_surplus (items : List Buffer) (taken : Nat) :
    ((itemsOf items).surplus taken).Settled := .guard _

theorem surplus_eq_pure {items : List Buffer} {taken : Nat} {done : Unit} :
    (itemsOf items).surplus taken = pure done ↔ items.length ≤ taken :=
  Reading.guard_eq_pure.trans Nat.not_lt

section

variable {F : Type} [DecidableEq F] {Value : F → Type} {shape : Shape F Value}
  {readField : (field : F) → Json → Reading (Value field)}
  {otherField : (field : F) → Buffer → Reading (Value field)}

theorem read_list (items : List Buffer) :
    shape.read otherField (.list items) =
      shape.readItems otherField (pure ()) 0 shape.fields items Slots.empty >>= fun slots =>
        (itemsOf items).surplus shape.fields.length >>= fun _ => match shape.close slots with
          | .ok values => pure values
          | .error cause => Reading.mismatch cause := rfl

variable (same : ∀ field json, otherField field (ofJson json) = readField field json)

include same

theorem readItems_ofJson (fields : List F) (items : List Json) (index : Nat) (slots : Slots Value) :
    shape.readItems otherField (pure ()) index fields (ofItems items) slots =
      shape.readItems readField (pure ()) index fields items slots := by
  induction fields generalizing items index slots with
  | nil => rw [Shape.readItems, Shape.readItems]
  | cons field fields ih =>
    cases items with
    | nil =>
      rw [ofItems, Shape.readItems, Shape.readItems]
      refine bind_congr fun _ => ?_
      cases shape.absent field with
      | none => rfl
      | some value => exact ih [] (index + 1) (slots.fill field value)
    | cons item rest =>
      rw [ofItems, Shape.readItems, Shape.readItems, same]
      exact bind_congr fun value => ih rest (index + 1) (slots.fill field value)

/-- A list kept aside is read as a record if and only if the list is; a surplus is reported in words of
its own. -/
theorem list_ofJson (settled : ∀ field json, (readField field json).Settled) (items : List Json)
    (values : (field : F) → Value field) :
    shape.read otherField (.list (ofItems items)) = pure values ↔
      shape.read readField (.arr items) = pure values := by
  have settledItems : Reading.Keeps .settled
      (shape.readItems readField (pure ()) 0 shape.fields items Slots.empty) :=
    Answers.readItems settled (.pure ()) shape.fields items 0 Slots.empty
  rw [read_list, readItems_ofJson same, Shape.read_arr]
  obtain ⟨slots, taken⟩ | ⟨fault, refused⟩ := settledItems.pure_or_fail
  · have fits (done : Unit) : (itemsOf (ofItems items)).surplus shape.fields.length = pure done ↔
        (Json.itemsOf items).surplus shape.fields.length = pure done := by
      rw [surplus_eq_pure, Json.surplus_eq_pure, ofItems_eq_map, List.length_map]
    rw [taken, pure_bind, pure_bind, (settled_surplus _ _).bind_eq_pure,
      (Json.settled_surplus _ _).bind_eq_pure]
    exact exists_congr fun done => and_congr_left fun _ => fits done
  · rw [refused]
    rfl

end

end Buffer

namespace Backend

namespace RocksDb

theorem settled_consult (result : Except Mismatch α) :
    (Reading.consult fun _ => Logged.silent result).Settled := by
  cases result with
  | error cause => exact .mismatch cause
  | ok value => exact .pure value

/-- A source settles its config unless it is a path alone. -/
theorem settled [Source ν] (settling : Settling ν) {value : ν}
    (inline : ∀ path, shape.read readField value ≠ pure (Written.parts ⟨some path, none⟩)) :
    (read value).Settled := by
  rw [read]
  obtain ⟨values, parts⟩ | ⟨fault, refused⟩ :=
    (settling.read settling.rocksDbField value).pure_or_fail
  · have written : values = Written.parts ⟨values .src, values .params⟩ :=
      funext fun field => by cases field <;> rfl
    have elsewhere (path : String) : (⟨values .src, values .params⟩ : Written) ≠ ⟨some path, none⟩ := by
      intro same
      rw [same] at written
      exact inline path (parts.trans (congrArg pure written))
    obtain ⟨result, silent⟩ := load_of_not_path elsewhere
    rw [parts, pure_bind]
    simp only [silent]
    exact settled_consult _
  · rw [refused]
    exact .fault fault

theorem settled_kept {json : Json} (canonical : json.Canonical)
    (inline : ∀ path, ¬ Written.Fits json ⟨some path, none⟩) : (read (Buffer.ofJson json)).Settled := by
  refine settled Buffer.settling fun path parts => inline path ?_
  rw [← read_eq_parts canonical]
  cases json with
  | obj fields => rwa [Buffer.record_ofJson readField_ofJson] at parts
  | arr items =>
    exact (Buffer.list_ofJson readField_ofJson Json.settling.rocksDbField items _).1 parts
  | _ => exact absurd parts (Reading.fail_ne_pure _ _)

end RocksDb

/-- A tag beside the parts is none of them. -/
theorem RocksDb.Written.Fits.of_untagged {fields : List (String × Json)} {written : Written}
    (fits : written.Fits (.obj (fields.filter fun field => field.1 ≠ Config.tag))) :
    written.Fits (.obj fields) := by
  cases fits with
  | keyed src params =>
    rw [Json.lookup_filter (by decide)] at src params
    exact .keyed src params

/-! A config has a tag and, aside, the fields of its kind. -/

namespace Config

def tags : List Json := [.str "rocksdb"]

/-- A tree that loads a file when it is read as a config: a tag, and a path alone beside it. -/
inductive Loads (tags : List Json) : Json → Prop where
  | keyed {fields : List (String × Json)} {named : Json} {path : String}
    (tagged : (tag, named) ∈ fields) (rocksDb : named ∈ tags)
    (source : RocksDb.Written.Fits (.obj fields) ⟨some path, none⟩) : Loads tags (.obj fields)
  | positional {named : Json} {rest : List Json} {path : String} (rocksDb : named ∈ tags)
    (source : RocksDb.Written.Fits (.arr rest) ⟨some path, none⟩) : Loads tags (.arr (named :: rest))

/-- What a tree has as a config: the kind that its tag stands for, and what is kept aside. -/
inductive Divides (tags : List Json) (kind : Kind) : Json → Buffer → Prop where
  | keyed {fields : List (String × Json)} {named : Json} (tagged : (tag, named) ∈ fields)
    (rocksDb : kind = .rocksDb → named ∈ tags) :
    Divides tags kind (.obj fields)
      (.mapping (Buffer.ofFields (fields.filter fun field => field.1 ≠ tag)))
  | positional {named : Json} {rest : List Json} (rocksDb : kind = .rocksDb → named ∈ tags) :
    Divides tags kind (.arr (named :: rest)) (.list (Buffer.ofItems rest))

section

variable [Source ν] {Shown : ν → Json → Prop} (showing : Showing Shown) {spell : String → ν}
  {hold : Json → ν} (held : ∀ json, Shown (hold json) json) {tags : List Json}
  (names : ∀ json, (readTag (hold json)).Settles fun kind => kind = .rocksDb → json ∈ tags)

include showing held names

theorem settles_splitTag (spells : ∀ text, Spells (spell text) text) (fields : List (String × Json))
    (found : Option Kind) :
    (splitTag (fields.map fun field => (spell field.1, hold field.2)) found).Settles fun split =>
      split.2 = Buffer.ofFields (fields.filter fun field => field.1 ≠ tag) ∧
      ∀ kind, split.1 = some kind → found = some kind ∨
        ∃ named, (tag, named) ∈ fields ∧ (kind = .rocksDb → named ∈ tags) := by
  induction fields generalizing found with
  | nil => exact .value ⟨rfl, fun kind same => .inl same⟩
  | cons field rest ih =>
    obtain ⟨key, value⟩ := field
    by_cases same : key = tag
    · subst same
      rw [List.map_cons, keeps_tag.taken (spells tag), List.filter_cons_of_neg (by simp)]
      split
      · exact .mismatch _
      · refine (names value).bind fun kind rocksDb => (ih (some kind)).mono ?_
        rintro split ⟨others, origin⟩
        -- No later tag can take the place of this one, so the kind is of one of the two.
        refine ⟨others, fun other given => .inr ?_⟩
        obtain same | ⟨named, member, means⟩ := origin other given
        · obtain rfl := Option.some.inj same
          exact ⟨value, List.mem_cons_self, rocksDb⟩
        · exact ⟨named, List.mem_cons_of_mem _ member, means⟩
    · rw [List.map_cons, keeps_tag.kept (spells key) same, showing.buffer (held value), pure_bind,
        List.filter_cons_of_pos (by simpa using same)]
      refine (ih found).bind ?_
      rintro ⟨taken, kept⟩ ⟨others, origin⟩
      refine .value ⟨?_, fun kind given => (origin kind given).imp_right ?_⟩
      · rw [Buffer.ofFields]
        exact congrArg _ others
      · rintro ⟨named, member, means⟩
        exact ⟨named, List.mem_cons_of_mem _ member, means⟩

theorem settles_entries (spells : ∀ text, Spells (spell text) text) (fields : List (String × Json)) :
    (readParts (.entries ⟨fields.map fun field => (spell field.1, hold field.2), pure ()⟩)).Settles
      fun found => Divides tags found.1 (.obj fields) found.2 := by
  refine (settles_splitTag showing held names spells fields none).bind ?_
  rintro ⟨found, kept⟩ ⟨rfl, origin⟩
  simp only [pure_bind]
  cases found with
  | none => exact .mismatch _
  | some kind =>
    obtain ⟨⟨⟩⟩ | ⟨named, member, means⟩ := origin kind rfl
    exact .value (.keyed member means)

theorem settles_items (items : List Json) (surplus : Nat → Reading Unit) :
    (readParts (.items ⟨items.map hold, pure (), surplus⟩)).Settles
      fun found => Divides tags found.1 (.arr items) found.2 := by
  cases items with
  | nil => exact .mismatch _
  | cons named rest =>
    have kept : Reading.each (Source.buffer "any value") (rest.map hold) =
        pure (Buffer.ofItems rest) :=
      showing.each_buffer (List.forall₂_map_left_iff.2 (List.forall₂_same.2 fun json _ => held json)) _
    refine (names named).bind fun kind means => ?_
    rw [kept]
    exact .value (.positional means)

end

theorem settled_readAs {tags : List Json} {json : Json} (canonical : json.Canonical)
    (inline : ¬ Loads tags json) {kind : Kind} {fields : Buffer} (divides : Divides tags kind json fields) :
    (readAs fields kind).Settled := by
  cases kind with
  | cuckoo => exact (Buffer.settling.cuckoo fields).map _
  | redis => exact (Buffer.settling.redis fields).map _
  | rocksDb =>
    have source : (RocksDb.read fields).Settled := by
      cases divides with
      | keyed tagged rocksDb =>
        exact RocksDb.settled_kept (Json.canonical_filter canonical _) fun path source =>
          inline (.keyed tagged (rocksDb rfl) (RocksDb.Written.Fits.of_untagged source))
      | @positional named rest rocksDb =>
        have canonicalRest : (Json.arr rest).Canonical := canonical.2
        exact RocksDb.settled_kept canonicalRest fun path source =>
          inline (.positional (rocksDb rfl) source)
    exact source.map Config.rocksDb

/-- RocksDB is the kind of one name and of one number. -/
theorem settles_pick (name : Name) :
    (Reading.pick (Kind.all.map fun kind => (kind.name, kind)) name).Settles
      fun kind => kind = .rocksDb → name = .text "rocksdb" ∨ name = .index 2 := by
  cases name with
  | text text =>
    rw [Reading.pick]
    split
    · next kind found =>
      refine .value fun same => .inl ?_
      subst same
      obtain ⟨before, after, split, -⟩ := List.lookup_eq_some_iff.1 found
      have member : (text, Kind.rocksDb) ∈ Kind.all.map fun kind => (kind.name, kind) := by
        rw [split]
        exact List.mem_append_right _ List.mem_cons_self
      obtain ⟨kind, -, same⟩ := List.mem_map.1 member
      obtain ⟨rfl, rfl⟩ := Prod.mk.inj same
      rfl
    · exact .mismatch _
  | index index =>
    obtain _ | _ | _ | other := index
    · exact .value fun same => absurd same (by decide)
    · exact .value fun same => absurd same (by decide)
    · exact .value fun _ => .inr rfl
    · exact .mismatch _

/-- A config is settled by a tree that does not load a file. -/
theorem settled {json : Json} (canonical : json.Canonical) (inline : ¬ Loads tags json) :
    (read json).Settled := by
  have names (json : Json) : (readTag json).Settles fun kind => kind = .rocksDb → json ∈ tags := by
    cases json with
    | str text =>
      refine (settles_pick (.text text)).mono fun kind origin rocksDb => ?_
      obtain named | ⟨⟨⟩⟩ := origin rocksDb
      obtain rfl := Name.text.inj named
      exact List.mem_singleton_self _
    | _ => exact .mismatch _
  have spells (text : String) : Spells (Json.str text) text := ⟨fun _ => rfl, fun _ => rfl, fun _ => rfl⟩
  have shown (json : Json) : Json.rendering.Shows json json := ⟨0, rfl, rfl⟩
  have divides : (Source.place json (Source.tagged "internally tagged enum BackendConfig" json >>=
      readParts)).Settles fun found => Divides tags found.1 json found.2 := by
    cases json with
    | obj fields => exact settles_entries Json.faithful.toShowing shown names spells fields
    | arr items =>
      have parts := settles_items Json.faithful.toShowing shown names items (Json.itemsOf items).surplus
      rwa [List.map_id'] at parts
    | _ => exact .mismatch _
  exact divides.bind fun found => settled_readAs canonical inline

end Config

namespace Reference

/-- The trees that tag a RocksDB config in the place of a reference, where names have numbers as well. -/
def tags : List Json := [.str "rocksdb", .num (.int 2 (by decide))]

theorem settles_readTag (json : Json) :
    (Config.readTag (Buffer.ofJson json)).Settles fun kind => kind = .rocksDb → json ∈ tags := by
  cases json with
  | str text =>
    refine (Config.settles_pick (.text text)).mono fun kind origin rocksDb => ?_
    obtain named | ⟨⟨⟩⟩ := origin rocksDb
    obtain rfl := Name.text.inj named
    exact List.mem_cons_self
  | num number =>
    cases number with
    | float value => exact .mismatch _
    | int value fits =>
      change Reading.Settles _ (Buffer.name _ (.num (.int value fits)) >>= Reading.pick _)
      rw [Buffer.name]
      split
      · next positive =>
        rw [pure_bind]
        refine (Config.settles_pick (.index value.toNat)).mono fun kind origin rocksDb => ?_
        obtain ⟨⟨⟩⟩ | third := origin rocksDb
        -- RocksDB is the last of three kinds.
        obtain rfl : value = 2 := by
          have := Name.index.inj third
          omega
        exact List.mem_cons_of_mem _ (List.mem_singleton_self _)
      · exact .mismatch _
  | _ => exact .mismatch _

/-- A reference is settled by a tree that does not load a file. -/
theorem settled {json : Json} (canonical : json.Canonical) (inline : ¬ Config.Loads tags json) :
    (read json).Settled := by
  have spells (text : String) : Spells (Buffer.text text) text :=
    ⟨fun _ => rfl, fun _ => rfl, fun _ => rfl⟩
  have shown (json : Json) : Buffer.rendering.Shows (.ofJson json) json := ⟨0, rfl, rfl⟩
  have divides : (Source.place (Buffer.ofJson json)
      (Source.tagged "internally tagged enum BackendConfig" (Buffer.ofJson json) >>=
        Config.readParts)).Settles fun found => Config.Divides tags found.1 json found.2 := by
    cases json with
    | obj fields =>
      have parts := Config.settles_entries Buffer.faithful.toShowing shown settles_readTag spells fields
      rwa [← Buffer.ofFields_eq_map] at parts
    | arr items =>
      have parts := Config.settles_items Buffer.faithful.toShowing shown settles_readTag items
        (Buffer.itemsOf (Buffer.ofItems items)).surplus
      rwa [← Buffer.ofItems_eq_map] at parts
    | _ => exact .mismatch _
  have config : (Config.read (Buffer.ofJson json)).Settled :=
    divides.bind fun found => Config.settled_readAs canonical inline
  have inPlace := (config.map Reference.inline).onFault fun _ => .mismatch none (.noVariant "BackendRef")
  rw [← attempt_eq] at inPlace
  cases json with
  | str name => exact .pure _
  | _ => exact inPlace

end Reference

end Backend

end KvTables
