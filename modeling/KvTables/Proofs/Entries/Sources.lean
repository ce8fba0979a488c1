import KvTables.Proofs.Entries.Loading
import KvTables.Proofs.Entries.Places
import KvTables.Proofs.Reading.Keyed

/-! Which trees are written sources of parameters, and what reading them leads to.

A source is written under its keys or as a list of at most two. Its shape is settled before anything is
loaded: only a path that stands alone leads to a file, and to the one line that says what came of it.
-/

set_option autoImplicit false

namespace KvTables

namespace Json

theorem canonicalItems_iff {items : List Json} :
    CanonicalItems items ↔ ∀ item ∈ items, item.Canonical := by
  induction items with
  | nil => simp [CanonicalItems]
  | cons item rest ih => simp [CanonicalItems, ih]

theorem settled_surplus (items : List Json) (taken : Nat) :
    ((itemsOf items).surplus taken).Settled := .guard _

theorem surplus_eq_pure {items : List Json} {taken : Nat} {done : Unit} :
    (itemsOf items).surplus taken = pure done ↔ items.length ≤ taken :=
  Reading.guard_eq_pure.trans Nat.not_lt

end Json

namespace Backend.RocksDb

open Json (Nullable)

/-- The trees that a written config has: each part is left out, null, or given in its own form. -/
inductive Written.Fits : Json → Written → Prop where
  | keyed {fields : List (String × Json)} {written : Written}
    (src : Nullable .str (fields.lookup "src") written.src)
    (params : Nullable Json.Object.toJson (fields.lookup "params") written.params) :
    Fits (.obj fields) written
  | positional {items : List Json} {written : Written} (short : items.length ≤ 2)
    (src : Nullable .str items[0]? written.src)
    (params : Nullable Json.Object.toJson items[1]? written.params) :
    Fits (.arr items) written

def Stands : (field : Field) → Option Json → field.Value → Prop
  | .src => Nullable .str
  | .params => Nullable Json.Object.toJson

theorem object_eq_pure {json : Json} (canonical : json.Canonical) (params : Json.Object) :
    Reading.object json = pure params ↔ json = params.toJson := by
  have whole (fields : List (String × Json)) :
      Reading.object (Json.obj fields) = pure (.ofFields fields) := Json.faithful.object ⟨0, rfl, rfl⟩
  constructor
  · intro same
    cases json with
    | obj fields =>
      obtain rfl := Reading.pure_inj ((whole fields).symm.trans same)
      exact congrArg Json.Object.toJson (Json.Object.ofFields_fields ⟨fields, canonical⟩).symm
    | _ => exact absurd same (Reading.fail_ne_pure _ _)
  · rintro rfl
    exact (whole params.fields).trans (congrArg pure params.ofFields_fields)

theorem readField_eq_pure {json : Json} (canonical : json.Canonical) (field : Field)
    (value : field.Value) :
    readField field json = pure value ↔ Stands field (some json) value := by
  cases field with
  | src =>
    exact Json.optional_eq_pure (fun _ => Json.noConfusion) (Json.settling.text _)
      (Json.text_eq_pure _ json) value
  | params =>
    exact Json.optional_eq_pure (fun _ => Json.noConfusion) Json.settling.object
      (object_eq_pure canonical) value

theorem readAt_eq_pure {place : Option Json} (canonical : ∀ json ∈ place, json.Canonical)
    (field : Field) (value : field.Value) :
    shape.readAt readField field place = pure value ↔ Stands field place value := by
  cases place with
  | none =>
    rw [Shape.readAt_none]
    cases field <;> exact Option.some_inj.trans (eq_comm.trans Json.nullable_none.symm)
  | some json => exact readField_eq_pure (canonical json rfl) field value

theorem gives_iff {fields : List (String × Json)} (canonical : (Json.obj fields).Canonical)
    (field : Field) (value : field.Value) :
    shape.Gives readField fields field value ↔
      Stands field (fields.lookup (shape.name field)) value := by
  have standing : shape.standing field fields = (fields.lookup (shape.name field)).toList := by
    rw [Shape.standing_eq_under named fun _ => rfl, Json.under_eq_lookup canonical.1.nodup]
  refine (Shape.gives_of_standing standing value).trans (readAt_eq_pure (fun json held => ?_) _ _)
  obtain ⟨before, after, rfl, -⟩ := List.lookup_eq_some_iff.1 held
  exact Json.canonicalFields_iff.1 canonical.2 _ (List.mem_append_right _ List.mem_cons_self)

/-- A list gives the parts in their order, and may hold no more. -/
theorem read_items (items : List Json) :
    shape.read readField (Json.arr items) =
      shape.readAt readField .src items[0]? >>= fun src =>
      shape.readAt readField .params items[1]? >>= fun params =>
      (Json.itemsOf items).surplus 2 >>= fun _ => pure (Written.parts ⟨src, params⟩) := by
  have taken : shape.readItems readField (pure ()) 0 shape.fields items Slots.empty =
      shape.readAt readField .src items[0]? >>= fun src =>
      shape.readAt readField .params items[1]? >>= fun params =>
        pure ((Slots.empty.fill .src src).fill .params params) := by
    match items with
    | [] => rfl
    | [src] => rfl
    | src :: params :: rest => rfl
  have closed (src : Field.Value .src) (params : Field.Value .params) :
      shape.close ((Slots.empty.fill .src src).fill .params params) = .ok (Written.parts ⟨src, params⟩) :=
    Shape.close_of_filled fun field => by cases field <;> rfl
  rw [Shape.read_arr, taken, bind_assoc]
  refine bind_congr fun src => ?_
  rw [bind_assoc]
  refine bind_congr fun params => ?_
  rw [pure_bind, closed]
  rfl

/-- The parts of a source are read from the trees it has and from no other. -/
theorem read_eq_parts {json : Json} (canonical : json.Canonical) (written : Written) :
    shape.read readField json = pure written.parts ↔ written.Fits json := by
  cases json with
  | obj fields =>
    rw [Shape.read_object_eq_pure Json.settling.rocksDbField]
    constructor
    · intro gives
      exact .keyed ((gives_iff canonical .src _).1 (gives .src))
        ((gives_iff canonical .params _).1 (gives .params))
    · rintro ⟨src, params⟩ field
      cases field with
      | src => exact (gives_iff canonical .src _).2 src
      | params => exact (gives_iff canonical .params _).2 params
  | arr items =>
    have settledAt (field : Field) (place : Option Json) :
        (shape.readAt readField field place).Settled := by
      cases place with
      | none => cases field <;> exact .pure none
      | some json => exact Json.settling.rocksDbField field json
    have inPlace (index : Nat) (field : Field) (value : field.Value) :
        shape.readAt readField field items[index]? = pure value ↔ Stands field items[index]? value :=
      readAt_eq_pure (fun json held => Json.canonicalItems_iff.1 canonical json
        (List.mem_of_getElem? held)) field value
    -- The path, the parameters, and nothing behind them.
    rw [read_items, (settledAt _ _).bind_eq_pure]
    constructor
    · rintro ⟨src, readSrc, goesOn⟩
      obtain ⟨params, readParams, ends⟩ := (settledAt _ _).bind_eq_pure.1 goesOn
      obtain ⟨done, within, same⟩ := (Json.settled_surplus items 2).bind_eq_pure.1 ends
      have parts := Reading.pure_inj same
      obtain rfl : src = written.src := congrFun parts .src
      obtain rfl : params = written.params := congrFun parts .params
      exact .positional (Json.surplus_eq_pure.1 within) ((inPlace 0 .src _).1 readSrc)
        ((inPlace 1 .params _).1 readParams)
    · rintro (_ | ⟨short, src, params⟩)
      refine ⟨written.src, (inPlace 0 .src _).2 src, ?_⟩
      refine (settledAt _ _).bind_eq_pure.2 ⟨written.params, (inPlace 1 .params _).2 params, ?_⟩
      exact (Json.settled_surplus items 2).bind_eq_pure.2 ⟨(), Json.surplus_eq_pure.2 short, rfl⟩
  | _ =>
    refine ⟨fun same => absurd same (Reading.fail_ne_pure _ _), fun fits => ?_⟩
    cases fits

/-- Either the shape is at fault, or the tree has parts, and what they load is reported. -/
theorem run_cases {json : Json} (canonical : json.Canonical) :
    ((∀ written : Written, ¬ written.Fits json) ∧
      ∃ fault, ∀ files, (read json).run files = ⟨.error fault, []⟩) ∨
    ∃ written : Written, (∀ other : Written, other.Fits json ↔ other = written) ∧
      ∀ files, (read json).run files = reported (written.load files) := by
  obtain ⟨values, parts⟩ | ⟨fault, refused⟩ :=
    (settled_fields json).pure_or_fail
  · obtain ⟨written, rfl⟩ : ∃ written : Written, values = written.parts :=
      ⟨⟨values .src, values .params⟩, funext fun field => by cases field <;> rfl⟩
    refine .inr ⟨written, fun other => ?_, run_of_parts parts⟩
    rw [← read_eq_parts canonical, parts]
    constructor
    · intro same
      have equal : written.parts = other.parts := Reading.pure_inj same
      have src : written.src = other.src := congrFun equal .src
      have params : written.params = other.params := congrFun equal .params
      cases written
      cases other
      rw [Written.mk.injEq]
      exact ⟨src.symm, params.symm⟩
    · rintro rfl
      rfl
  · refine .inl ⟨fun written fits => ?_, fault, fun files => ?_⟩
    · exact Reading.fail_ne_pure _ _ (refused.symm.trans ((read_eq_parts canonical written).2 fits))
    · rw [read, refused]
      rfl

variable {files : Files} {config : RocksDb}

theorem reported_ok_iff {loaded : Logged (Except Failure RocksDb)} :
    (reported loaded).value = .ok config ↔ loaded.value = .ok config := by
  obtain ⟨value, log⟩ := loaded
  cases value with
  | error failure => exact ⟨nofun, nofun⟩
  | ok found => exact ⟨fun same => congrArg Except.ok (Except.ok.inj same),
      fun same => congrArg Except.ok (Except.ok.inj same)⟩

/-- A file leads to parameters if and only if it can be read and holds one object. -/
theorem fromPath_ok_iff {path : String} :
    (fromPath path files).value = .ok config ↔ ∃ content fields, files.read path = .ok content ∧
      Json.ofText content = .ok (.obj fields) ∧ config.params = .ofFields fields := by
  cases found : files.read path with
  | error cause =>
    rw [fromPath_of_error path found]
    exact ⟨nofun, nofun⟩
  | ok content =>
    rw [fromPath_of_ok path found]
    constructor
    · intro loaded
      split at loaded
      · cases loaded
      · next params read =>
        obtain rfl := Except.ok.inj loaded
        obtain ⟨fields, parsed, same⟩ := Json.readText_object.1 read
        exact ⟨content, fields, rfl, parsed, same⟩
    · rintro ⟨_, fields, ⟨⟩, parsed, same⟩
      rw [Json.readText_object.2 ⟨fields, parsed, rfl⟩]
      exact congrArg (Except.ok ∘ RocksDb.mk) same.symm

theorem load_ok_iff {written : Written} :
    (written.load files).value = .ok config ↔ written = ⟨none, some config.params⟩ ∨
      ∃ path, written = ⟨some path, none⟩ ∧ (fromPath path files).value = .ok config := by
  obtain ⟨src, params⟩ := written
  cases src with
  | none =>
    cases params with
    | none => exact ⟨nofun, by rintro (⟨⟨⟩⟩ | ⟨path, ⟨⟩, -⟩)⟩
    | some params =>
      constructor
      · intro loaded
        obtain rfl := Except.ok.inj loaded
        exact .inl rfl
      · rintro (same | ⟨path, ⟨⟩, -⟩)
        cases same
        rfl
  | some path =>
    cases params with
    | none =>
      constructor
      · exact fun loaded => .inr ⟨path, rfl, loaded⟩
      · rintro (⟨⟨⟩⟩ | ⟨_, ⟨⟩, loaded⟩)
        exact loaded
    | some params => exact ⟨nofun, by rintro (⟨⟨⟩⟩ | ⟨path, ⟨⟩, -⟩)⟩

/-- All that a load asks of the files is what the one path leads to. -/
theorem fromPath_congr {path : String} {others : Files} (same : others.read path = files.read path) :
    fromPath path others = fromPath path files := by
  cases found : files.read path with
  | error cause => rw [fromPath_of_error path found, fromPath_of_error path (same.trans found)]
  | ok content =>
    rw [fromPath_of_ok path found, fromPath_of_ok path (same.trans found),
      (Json.Cursor.settled_readText Json.Cursor.settling.object content).run_eq others files]

theorem load_of_not_path {written : Written} (inline : ∀ path, written ≠ ⟨some path, none⟩) :
    ∃ result, ∀ files, written.load files = Logged.silent result := by
  obtain ⟨src, params⟩ := written
  cases src with
  | none => cases params <;> exact ⟨_, fun _ => rfl⟩
  | some path =>
    cases params with
    | none => exact absurd rfl (inline path)
    | some params => exact ⟨_, fun _ => rfl⟩

/-- Reading a source succeeds if and only if it has exactly one part, and that part can be had. Only a
path that stands alone leads to a file, and to no other. -/
theorem source_grammar (value : Json.Value) (files : Files) :
    let ran : Files → Logged (Except Fault RocksDb) := (Form.readValue .rocksDb value).run
    (∀ config : RocksDb, (ran files).value = .ok config ↔
      Written.Fits value.json ⟨none, some config.params⟩ ∨
      ∃ path, Written.Fits value.json ⟨some path, none⟩ ∧
        ∃ content fields, files.read path = .ok content ∧ Json.ofText content = .ok (.obj fields) ∧
          config.params = .ofFields fields) ∧
    (∀ path params, Written.Fits value.json ⟨some path, some params⟩ →
      ∃ fault, ran files = ⟨.error fault, []⟩ ∧ ∀ dialect, fault.message dialect =
        "Invalid argument: RocksDB config takes either 'src' or 'params', not both") ∧
    (Written.Fits value.json ⟨none, none⟩ →
      ∃ fault, ran files = ⟨.error fault, []⟩ ∧ ∀ dialect, fault.message dialect =
        "Invalid argument: RocksDB config needs a 'src' path or inline 'params'") ∧
    (∀ path, Written.Fits value.json ⟨some path, none⟩ →
      ran files = reported (fromPath path files) ∧ (ran files).log.length = 1 ∧
      ∀ others, others.read path = files.read path → ran others = ran files) ∧
    ((∀ path, ¬ Written.Fits value.json ⟨some path, none⟩) →
      (ran files).log = [] ∧ ∀ others, ran others = ran files) := by
  intro ran
  -- A tree of another shape has no parts at all; any other has just one pair of them.
  obtain ⟨misshapen, fault, failed⟩ | ⟨written, only, loaded⟩ := run_cases value.canonical
  · have refused (files : Files) : ran files = ⟨.error fault, []⟩ := failed files
    refine ⟨fun config => ⟨fun ok => ?_, ?_⟩, fun path params fits => absurd fits (misshapen _),
      fun fits => absurd fits (misshapen _), fun path fits => absurd fits (misshapen _),
      fun _ => ⟨congrArg Logged.log (refused files), fun others => ?_⟩⟩
    · rw [refused] at ok
      cases ok
    · rintro (fits | ⟨path, fits, -⟩) <;> exact absurd fits (misshapen _)
    · rw [refused, refused]
  · have reports (files : Files) : ran files = reported (written.load files) := loaded files
    simp only [only]
    refine ⟨fun config => ?_, ?_, ?_, ?_, fun inline => ?_⟩
    · rw [reports, reported_ok_iff, load_ok_iff]
      simp only [← fromPath_ok_iff, eq_comm (b := written)]
    · rintro path params rfl
      exact ⟨_, reports files, fun _ => rfl⟩
    · rintro rfl
      exact ⟨_, reports files, fun _ => rfl⟩
    · rintro path rfl
      refine ⟨reports files, ?_, fun others same => ?_⟩
      · rw [reports]
        exact log_fromPath path files
      · rw [reports, reports]
        exact congrArg reported (fromPath_congr same)
    · obtain ⟨result, silent⟩ := load_of_not_path fun path => inline path ∘ Eq.symm
      simp only [reports, silent]
      exact ⟨rfl, fun _ => trivial⟩

/-- A path in a list, beside nothing and beside parameters. -/
theorem source_grammar_stored :
    let alone : Json.Value := .ofJson (.arr [.str standardPath, .null])
    let beside : Json.Value := .ofJson (.obj [("src", .str standardPath), ("params", .obj [])])
    Written.Fits alone.json ⟨some standardPath, none⟩ ∧
    storedFiles.read standardPath = .ok storedParams.toJson.toText ∧
    Json.ofText storedParams.toJson.toText = .ok storedParams.toJson ∧
    ((Form.readValue .rocksDb alone).run storedFiles).value = .ok (⟨storedParams⟩ : RocksDb) ∧
    ((Form.readValue .rocksDb alone).run storedFiles).log.length = 1 ∧
    Written.Fits beside.json ⟨some standardPath, some .empty⟩ ∧
    ∃ fault : Fault, (Form.readValue .rocksDb beside).run storedFiles = ⟨.error fault, []⟩ ∧
      fault.message .json =
        "Invalid argument: RocksDB config takes either 'src' or 'params', not both" := by
  intro alone beside
  have path : Written.Fits alone.json ⟨some standardPath, none⟩ :=
    .positional (by decide) (.given standardPath) .null
  have both : Written.Fits beside.json ⟨some standardPath, some .empty⟩ :=
    .keyed (.given standardPath) (.given Json.Object.empty)
  have holds : storedFiles.read standardPath = .ok storedParams.toJson.toText := by rfl
  have parsed : Json.ofText storedParams.toJson.toText = .ok storedParams.toJson :=
    Json.ofText_toText (by decide) (by decide)
  obtain ⟨succeeds, -, -, loads, -⟩ := source_grammar alone storedFiles
  obtain ⟨-, refuses, -⟩ := source_grammar beside storedFiles
  obtain ⟨fault, refused, message⟩ := refuses standardPath .empty both
  refine ⟨path, holds, parsed, (succeeds ⟨storedParams⟩).2 (.inr ⟨standardPath, path, _, _, holds,
    parsed, storedParams.ofFields_fields.symm⟩), (loads standardPath path).2.1, both, fault, refused,
    message .json⟩

end Backend.RocksDb

end KvTables
