import KvTables.Proofs.Entries.Places
import KvTables.Proofs.Reading.Spelled
import KvTables.Proofs.Recovery.Form

/-! From the written config of a Redis table to the parameter file it points to.

A config gives a path, a variable, both or neither, each under one of two names. The variable counts if it
holds a text other than the empty one, and the path counts otherwise; no other variable is looked at.
-/

set_option autoImplicit false

namespace KvTables

def Variable.ofBytes (bytes : ByteArray) : Variable :=
  match String.fromUTF8? bytes with
  | some value => .text value
  | none => .binary

namespace Environment

def ofBytes (contents : List (String × ByteArray)) : Environment :=
  ⟨contents.map fun assignment => (assignment.1, .ofBytes assignment.2)⟩

theorem get?_ofBytes (contents : List (String × ByteArray)) (name : String) :
    (ofBytes contents).get? name = (contents.lookup name).map Variable.ofBytes := by
  unfold get? ofBytes
  induction contents with
  | nil => rfl
  | cons assignment rest ih =>
    obtain ⟨assigned, bytes⟩ := assignment
    rw [List.map_cons, Sorted.lookup_cons, Sorted.lookup_cons]
    split
    · rfl
    · exact ih

theorem text?_ofBytes (contents : List (String × ByteArray)) (name : String) :
    (ofBytes contents).text? name = (contents.lookup name).bind String.fromUTF8? := by
  rw [text?, get?_ofBytes]
  cases contents.lookup name with
  | none => rfl
  | some bytes =>
    rw [Option.map_some, Option.bind_some, Variable.ofBytes]
    cases String.fromUTF8? bytes <;> rfl

end Environment

namespace Backend.Redis

open Json (Nullable)

/-- What an object gives under two names of one field: at most one of them stands there, null or a text. -/
structure Given (object : Json.Object) (name other : String) (value : Option String) : Prop where
  once : object.get? name = none ∨ object.get? other = none
  stands : Nullable .str ((object.get? name).or (object.get? other)) value

/-- The names of the fields, each with the other name of its field. -/
def spellings : List (String × String) :=
  [("config_path", "redis_config_abs_dir"), ("config_path_env", "redis_config_abs_dir_env")]

/-- A change of keys that at most puts one name of a field for the other. -/
def Respells (spell : String → String) : Prop :=
  ∀ key, spell key = key ∨ (key, spell key) ∈ spellings ∨ (spell key, key) ∈ spellings

def offered (config : Redis) (contents : List (String × ByteArray)) : Option String := do
  let bytes ← contents.lookup (← config.envName)
  let value ← String.fromUTF8? bytes
  if value = "" then none else some value

theorem spelled : shape.Spelled := by
  intro field key member
  cases field <;> simp [shape] at member <;> rcases member with rfl | rfl <;> rfl

def Field.other : Field → String
  | .path => "redis_config_abs_dir"
  | .envName => "redis_config_abs_dir_env"

theorem readAt_eq_pure (field : Field) (place : Option Json) (value : Option String) :
    shape.readAt readField field place = pure value ↔ Nullable .str place value := by
  cases place with
  | none =>
    rw [Shape.readAt_none]
    exact Option.some_inj.trans (eq_comm.trans Json.nullable_none.symm)
  | some json =>
    cases field with
    | path | envName =>
      exact Json.optional_eq_pure (fun _ => Json.noConfusion) (Json.settling.text _)
        (Json.text_eq_pure _ json) value

theorem eq_toList_of_perm {found : List Json} {place : Option Json}
    (permuted : found.Perm place.toList) : found = place.toList := by
  cases place with
  | none => exact List.perm_nil.1 permuted
  | some json => exact List.perm_singleton.1 permuted

theorem gives_iff (object : Json.Object) (field : Field) (value : Option String) :
    shape.Gives readField object.fields field value ↔
      Given object (shape.name field) field.other value := by
  have permuted : (shape.standing field object.fields).Perm
      ((object.get? (shape.name field)).toList ++ (object.get? field.other).toList) := by
    have aliased : shape.aliases field = [field.other] := by cases field <;> rfl
    have different : shape.name field ≠ field.other := by cases field <;> decide
    have placed := Shape.standing_perm spelled aliased different object.fields
    rwa [Json.under_eq_lookup object.canonical.1.nodup,
      Json.under_eq_lookup object.canonical.1.nodup] at placed
  -- The field stands under both names together, so one of them has to be absent.
  by_cases once : object.get? (shape.name field) = none ∨ object.get? field.other = none
  · have place : (object.get? (shape.name field)).toList ++ (object.get? field.other).toList =
        ((object.get? (shape.name field)).or (object.get? field.other)).toList := by
      rcases once with none | none
      · rw [none]
        rfl
      · rw [none, Option.or_none]
        exact List.append_nil _
    rw [Shape.gives_of_standing (eq_toList_of_perm (place ▸ permuted)), readAt_eq_pure]
    exact ⟨fun stands => ⟨once, stands⟩, Given.stands⟩
  · refine ⟨fun gives => ?_, fun given => absurd given.once once⟩
    obtain ⟨named, also⟩ := not_or.1 once
    obtain ⟨json, held⟩ := Option.ne_none_iff_exists'.1 named
    obtain ⟨other, heldOther⟩ := Option.ne_none_iff_exists'.1 also
    rw [held, heldOther] at permuted
    obtain ⟨alone, -⟩ | ⟨nothing, -⟩ := gives
    · cases (alone ▸ permuted).length_eq
    · cases (nothing ▸ permuted).length_eq

theorem read_iff_parts (json : Json) (config : Redis) :
    read json = pure config ↔ shape.read readField json = pure config.slots :=
  (Json.settling.read (Json.settling.redisField) json).reshaped_eq_pure
    (fun _ => funext fun field => by cases field <;> rfl) (fun _ => rfl)

/-- A config is read from the objects that give its parts and from no other. -/
theorem read_eq_pure (object : Json.Object) (config : Redis) :
    read object.toJson = pure config ↔
      Given object "config_path" "redis_config_abs_dir" config.path ∧
      Given object "config_path_env" "redis_config_abs_dir_env" config.envName := by
  have gives : read object.toJson = pure config ↔
      ∀ field, Given object (shape.name field) field.other (config.slots field) :=
    (read_iff_parts _ config).trans
      ((Shape.read_object_eq_pure (Json.settling.redisField) object.fields config.slots).trans
        (forall_congr' fun field => gives_iff object field _))
  rw [gives]
  constructor
  · exact fun given => ⟨given .path, given .envName⟩
  · rintro ⟨path, envName⟩ field
    cases field with
    | path => exact path
    | envName => exact envName

theorem found_of_spellings {names : String × String} (pair : names ∈ spellings) :
    ∃ field, shape.find? (.text names.1) = some field ∧ shape.find? (.text names.2) = some field := by
  rcases List.mem_pair.1 pair with rfl | rfl
  · exact ⟨.path, rfl, rfl⟩
  · exact ⟨.envName, rfl, rfl⟩

theorem respelling {spell : String → String} (respells : Respells spell) : shape.Respelling spell := by
  have led (key : String) : spell key = key ∨ ∃ field, shape.find? (.text key) = some field ∧
      shape.find? (.text (spell key)) = some field := by
    refine (respells key).imp_right fun swapped => ?_
    obtain pair | pair := swapped
    · exact found_of_spellings pair
    · obtain ⟨field, found, foundOther⟩ := found_of_spellings pair
      exact ⟨field, foundOther, found⟩
  refine ⟨fun key => ?_, fun key unknown => ?_⟩
  · obtain same | ⟨field, found, foundOther⟩ := led key
    · rw [same]
    · rw [found, foundOther]
  · obtain same | ⟨field, found, -⟩ := led key
    · exact same
    · cases unknown.symm.trans found

theorem lookup_eq_of_spellings {object other : Json.Object} (same : ∀ names ∈ spellings,
      other.get? names.1 = object.get? names.1 ∧ other.get? names.2 = object.get? names.2)
    (key : String) (known : (shape.find? (.text key)).isSome) :
    other.fields.lookup key = object.fields.lookup key := by
  obtain ⟨field, found⟩ := Option.isSome_iff_exists.1 known
  have pair : (shape.name field, field.other) ∈ spellings := by cases field <;> decide
  have aliased : shape.aliases field = [field.other] := by cases field <;> rfl
  have names := (Shape.find?_spelled spelled).1 found
  rw [aliased] at names
  rcases List.mem_pair.1 names with rfl | rfl
  · exact (same _ pair).1
  · exact (same _ pair).2

theorem readValue_toJson (config : Redis) :
    Form.readValue .redis (Form.toValue .redis config) = pure config := by
  have recovered : Json.rendering.Reads read (Json.Arrangement.sorted.apply config.toJson) config :=
    config.reads .sorted
  exact recovered 0 rfl

theorem readText_toJson (config : Redis) :
    Form.readText .redis (Form.toText .redis config) = pure config := by
  obtain ⟨path, envName⟩ := config
  have exactly : (Form.toJson .redis (⟨path, envName⟩ : Redis)).isExact := by
    cases path <;> cases envName <;> rfl
  have flat : (Form.toJson .redis (⟨path, envName⟩ : Redis)).depth = 1 := by
    cases path <;> cases envName <;> rfl
  rw [Form.readText_toText_eq .redis _ exactly, flat]
  exact Reading.upTo_of_allows (Reading.allows_some.2 (by decide)) _

def unset (name : String) : Log.Line := ⟨.debug, s!"Redis config env var '{name}' is not set"⟩

theorem resolvePath_ofBytes (config : Redis) (contents : List (String × ByteArray)) :
    config.resolvePath (.ofBytes contents) = ⟨(config.offered contents).or config.path,
      match config.envName, config.offered contents with
      | some name, none => [unset name]
      | _, _ => []⟩ := by
  unfold resolvePath offered
  cases config.envName with
  | none => rfl
  | some name =>
    simp only [Environment.text?_ofBytes, Option.bind_eq_bind, Option.bind_some]
    cases contents.lookup name with
    | none => rfl
    | some bytes =>
      simp only [Option.bind_some]
      cases String.fromUTF8? bytes with
      | none => rfl
      | some value =>
        by_cases empty : value = ""
        · simp only [Option.bind_some, if_pos empty]
          rfl
        · simp only [Option.bind_some, if_neg empty]
          rfl

/-- Only the variable that is named is looked at. -/
theorem offered_congr {config : Redis} {contents others : List (String × ByteArray)}
    (same : ∀ name ∈ config.envName, others.lookup name = contents.lookup name) :
    config.offered others = config.offered contents := by
  unfold offered
  cases named : config.envName with
  | none => rfl
  | some name => simp only [Option.bind_eq_bind, Option.bind_some, same name named]

/-- Which objects are configs of Redis tables, and where these look for their parameters. -/
theorem entry_resolves (object : Json.Object) (files : Files) :
    let reading (object : Json.Object) : Reading Redis :=
      Form.readValue .redis ⟨object.toJson, object.canonical⟩
    (∀ config : Redis, ((reading object).run files).value = .ok config ↔
      Given object "config_path" "redis_config_abs_dir" config.path ∧
      Given object "config_path_env" "redis_config_abs_dir_env" config.envName) ∧
    (∀ other : Json.Object, (∀ names ∈ spellings, other.get? names.1 = object.get? names.1 ∧
      other.get? names.2 = object.get? names.2) → reading other = reading object) ∧
    (∀ spell config, Respells spell → ((reading object).run files).value = .ok config →
      ((reading (object.respelled spell)).run files).value = .ok config) ∧
    ∀ (config : Redis) (contents : List (String × ByteArray)),
      let resolved := config.resolvePath (.ofBytes contents)
      resolved.value = (config.offered contents).or config.path ∧
      resolved.log = (match config.envName, config.offered contents with
        | some name, none => [unset name]
        | _, _ => []) ∧
      (∀ others, (∀ name ∈ config.envName, others.lookup name = contents.lookup name) →
        config.resolvePath (.ofBytes others) = resolved) ∧
      (resolved.value = none → config.path = none) ∧
      ∃ again : Redis,
        (Form.readValue .redis (Form.toValue .redis config)).run files = Logged.silent (.ok again) ∧
        (Form.readText .redis (Form.toText .redis config)).run files = Logged.silent (.ok again) ∧
        again.resolvePath (.ofBytes contents) = resolved := by
  intro reading
  have settles (object : Json.Object) : (reading object).Settled :=
    Json.settling.redis object.toJson
  refine ⟨fun config => ?_, fun other same => ?_, fun spell config respells read => ?_,
    fun config contents => ?_⟩
  · exact (settles object).value_run_eq_ok.trans (read_eq_pure object config)
  · exact congrArg (· >>= _)
      (Shape.read_congr other.canonical.1 object.canonical.1 (lookup_eq_of_spellings same))
  · have parts := (read_iff_parts _ config).1 ((settles object).value_run_eq_ok.1 read)
    have again := (respelling respells).read_respelled (Json.settling.redisField) parts
    exact (settles _).value_run_eq_ok.2 ((read_iff_parts _ config).2 again)
  · have equation := resolvePath_ofBytes config contents
    refine ⟨congrArg Logged.value equation, congrArg Logged.log equation, fun others same => ?_,
      fun none => ?_, config, ?_, ?_, rfl⟩
    · rw [resolvePath_ofBytes, offered_congr same, ← equation]
    · rw [equation] at none
      exact (Option.or_eq_none_iff.1 none).2
    · exact congrArg (Reading.run · files) (readValue_toJson config)
    · exact congrArg (Reading.run · files) (readText_toJson config)

/-- A path under one name and a variable under the other, which is set, and then holds no text. -/
theorem entry_resolves_env :
    let object : Json.Object := .ofFields [("redis_config_abs_dir", .str "/etc/kv/redis.json"),
      ("config_path_env", .str "KV_REDIS"), ("pool", .null)]
    let config : Redis := ⟨some "/etc/kv/redis.json", some "KV_REDIS"⟩
    let spell (key : String) : String :=
      if key = "config_path_env" then "redis_config_abs_dir_env" else key
    let contents : List (String × ByteArray) := [("KV_REDIS", "/run/redis.json".toUTF8)]
    let others : List (String × ByteArray) := ("PATH", "/bin".toUTF8) :: contents
    let binary : List (String × ByteArray) := [("KV_REDIS", ⟨#[0xff]⟩)]
    Respells spell ∧
    ((Form.readValue .redis ⟨object.toJson, object.canonical⟩).run .initial).value = .ok config ∧
    ((Form.readValue .redis ⟨(object.respelled spell).toJson,
      (object.respelled spell).canonical⟩).run .initial).value = .ok config ∧
    (∀ name ∈ config.envName, others.lookup name = contents.lookup name) ∧
    config.resolvePath (.ofBytes others) = config.resolvePath (.ofBytes contents) ∧
    (config.resolvePath (.ofBytes contents)).value = some "/run/redis.json" ∧
    (config.resolvePath (.ofBytes binary)).value = config.path ∧
    (config.resolvePath (.ofBytes binary)).log = [unset "KV_REDIS"] := by
  intro object config spell contents others binary
  have respells : Respells spell := by
    intro key
    by_cases same : key = "config_path_env"
    · subst same
      exact .inr (.inl (by decide))
    · exact .inl (if_neg same)
  have unnamed : ∀ name ∈ config.envName, others.lookup name = contents.lookup name := by
    rintro name ⟨⟩
    rfl
  obtain ⟨reads, -, respelled, resolves⟩ := entry_resolves object .initial
  have read := (reads config).2 ⟨⟨.inl rfl, .given _⟩, ⟨.inr rfl, .given _⟩⟩
  obtain ⟨offered, -, kept, -⟩ := resolves config contents
  obtain ⟨fallback, logged, -⟩ := resolves config binary
  exact ⟨respells, read, respelled spell config respells read, unnamed, kept others unnamed, offered,
    fallback, logged⟩

end Backend.Redis

end KvTables
