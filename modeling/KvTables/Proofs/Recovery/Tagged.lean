import KvTables.Proofs.Recovery.Backend

/-! Configs are recovered from behind their tag.

What stands beside a tag or a name is kept aside until all fields have been seen. The tag can stand
anywhere, and no config has a field of that name.
-/

set_option autoImplicit false

namespace KvTables

open Json (Arrangement)

variable {ν : Type} [Source ν] {rendering : Rendering ν} (arrangement : Arrangement)

theorem filter_fresh {fields : List (String × Json)} {key : String}
    (fresh : key ∉ fields.map (·.1)) : (fields.filter fun field => field.1 ≠ key) = fields :=
  List.filter_eq_self.2 fun _ member =>
    decide_eq_true fun same => fresh (same ▸ List.mem_map_of_mem member)

/-- Taking one key out of an arranged object leaves the other fields. -/
theorem perm_filter_key {fields others : List (String × Json)} {key : String} {value : Json}
    (arranged : fields.Perm ((key, value) :: others)) (fresh : key ∉ others.map (·.1)) :
    (fields.filter fun field => field.1 ≠ key).Perm others := by
  have filtered := arranged.filter fun field => decide (field.1 ≠ key)
  rw [List.filter_cons_of_neg (by simp), filter_fresh fresh] at filtered
  exact filtered

theorem keys_applyFields (fields : List (String × Json)) :
    (arrangement.applyFields fields).map (·.1) = fields.map (·.1) := by
  simp [Arrangement.applyFields, Function.comp_def]

theorem nodup_arranged {fields arranged : List (String × Json)}
    (same : arranged.Perm (arrangement.applyFields fields)) (distinct : (fields.map (·.1)).Nodup) :
    (arranged.map (·.1)).Nodup := by
  rw [(same.map _).nodup_iff, keys_applyFields]
  exact distinct

/-- A pass over fields that takes the text under one key out and keeps the other fields aside. -/
structure Splits {γ : Type} (rendering : Rendering ν) (key : String) (text : γ → String)
    (split : List (ν × ν) → Option γ → Reading (Option γ × List (Buffer × Buffer))) : Prop where
  empty (found : Option γ) : split [] found = pure (found, [])
  taken {level : Nat} (allowed : Reading.allows rendering.deepest level) (value : γ)
    (rest : List (ν × ν)) :
    split ((rendering.render level (.str key), rendering.render level (.str (text value))) :: rest)
      none = split rest (some value)
  kept {level : Nat} {other : String} (allowed : Reading.allows rendering.deepest level)
    (different : other ≠ key) (value : ν) (rest : List (ν × ν)) (found : Option γ) :
    split ((rendering.render level (.str other), value) :: rest) found = do
      let kept ← Source.buffer "any value" value
      let (found, others) ← split rest found
      return (found, (.text other, kept) :: others)

namespace Splits

variable {γ : Type} {key : String} {text : γ → String}
  {split : List (ν × ν) → Option γ → Reading (Option γ × List (Buffer × Buffer))}
  {level : Nat}

theorem kept_cons (splits : Splits rendering key text split)
    (allowed : Reading.allows rendering.deepest level) {other : String} {json : Json}
    (different : other ≠ key) {rest : List (String × Json)} {found result : Option γ}
    {others : List (Buffer × Buffer)}
    (splitRest : split (rendering.pairs level rest) found =
      Reading.upTo rendering.deepest (level + Json.depthFields rest) (result, others)) :
    split (rendering.pairs level ((other, json) :: rest)) found =
      Reading.upTo rendering.deepest (level + Json.depthFields ((other, json) :: rest))
        (result, (.text other, Buffer.ofJson json) :: others) := by
  rw [Json.depthFields, ← Nat.add_max_add_left, rendering.pairs_cons,
    splits.kept allowed different, rendering.buffer level json _ allowed]
  refine Reading.upTo_then ?_
  rw [splitRest]
  refine Reading.upTo_bind (Nat.le_refl _) fun enough => ?_
  rw [Reading.upTo_of_allows enough]

theorem keeps_all (splits : Splits rendering key text split)
    (allowed : Reading.allows rendering.deepest level) (fields : List (String × Json))
    (fresh : key ∉ fields.map (·.1)) (found : Option γ) :
    split (rendering.pairs level fields) found =
      Reading.upTo rendering.deepest (level + Json.depthFields fields)
        (found, Buffer.ofFields fields) := by
  induction fields with
  | nil => exact (splits.empty found).trans (Reading.upTo_of_allows allowed _).symm
  | cons field rest ih =>
    obtain ⟨other, json⟩ := field
    obtain ⟨different, freshRest⟩ : key ≠ other ∧ key ∉ rest.map (·.1) := by simpa using fresh
    exact splits.kept_cons allowed different.symm (ih freshRest)

/-- Among distinct fields the key is found wherever it stands. -/
theorem takes (splits : Splits rendering key text split)
    (allowed : Reading.allows rendering.deepest level) (value : γ) (fields : List (String × Json))
    (distinct : (fields.map (·.1)).Nodup) (given : (key, .str (text value)) ∈ fields) :
    split (rendering.pairs level fields) none =
      Reading.upTo rendering.deepest (level + Json.depthFields fields)
        (some value, Buffer.ofFields (fields.filter fun field => field.1 ≠ key)) := by
  induction fields with
  | nil => cases given
  | cons field rest ih =>
    obtain ⟨first, json⟩ := field
    obtain ⟨fresh, distinctRest⟩ := List.nodup_cons.1 distinct
    -- The fields before the key and those behind it are kept, each pass over them for itself.
    by_cases same : first = key
    · subst same
      have here : json = .str (text value) := by
        rcases List.mem_cons.1 given with equal | member
        · exact (congrArg Prod.snd equal).symm
        · exact absurd (List.mem_map.2 ⟨_, member, rfl⟩) fresh
      subst here
      rw [Json.depthFields, Json.depth, Nat.zero_max, rendering.pairs_cons,
        splits.taken allowed value, splits.keeps_all allowed rest fresh,
        List.filter_cons_of_neg (by simp), filter_fresh fresh]
    · have inRest : (key, .str (text value)) ∈ rest := by
        rcases List.mem_cons.1 given with equal | member
        · exact absurd (congrArg Prod.fst equal).symm same
        · exact member
      rw [List.filter_cons_of_pos (by simpa using same)]
      exact splits.kept_cons allowed same (ih distinctRest inRest)

end Splits

namespace Backend

namespace Config

def untagged : Config → List (String × Json)
  | .cuckoo _ => []
  | .redis config => config.toFields
  | .rocksDb config => config.toFields

theorem toFields_eq_cons (config : Config) :
    config.toFields = (tag, .str config.kind.name) :: config.untagged := by
  cases config <;> rfl

theorem keys_untagged (config : Config) (key : String) (member : key ∈ config.untagged.map (·.1)) :
    key ∈ ["config_path", "config_path_env", "params"] := by
  obtain ⟨entry, given, rfl⟩ := List.mem_map.1 member
  cases config with
  | cuckoo config => cases given
  | redis config =>
    rw [untagged, Redis.toFields_eq_layout] at given
    obtain ⟨field, name, -⟩ := Shape.mem_layout.1 given
    cases field <;> simp [name, Redis.shape]
  | rocksDb config =>
    rw [untagged, RocksDb.toFields_eq_layout] at given
    obtain ⟨field, name, written⟩ := Shape.mem_layout.1 given
    cases field with
    | src => cases written
    | params => simp [name, RocksDb.shape]

theorem nodup_untagged (config : Config) : (config.untagged.map (·.1)).Nodup := by
  cases config with
  | cuckoo config => exact List.nodup_nil
  | redis config => exact config.nodup_toFields
  | rocksDb config => exact config.nodup_toFields

theorem tag_not_mem_untagged (config : Config) : tag ∉ config.untagged.map (·.1) :=
  fun member => absurd (config.keys_untagged tag member) (by decide)

theorem nodup_toFields (config : Config) : (config.toFields.map (·.1)).Nodup := by
  rw [toFields_eq_cons]
  exact List.nodup_cons.2 ⟨config.tag_not_mem_untagged, config.nodup_untagged⟩

theorem readTag_name (kind : Kind) (level : Nat) :
    readTag (rendering.render level (.str kind.name)) = pure kind := by
  rw [readTag, rendering.place, rendering.name]
  cases kind <;> rfl

theorem aside_key {level : Nat} (allowed : Reading.allows rendering.deepest level)
    (key expected : String) :
    Source.buffer expected (rendering.render level (.str key)) = pure (Buffer.text key) := by
  rw [rendering.buffer level _ _ allowed]
  exact Reading.upTo_of_allows allowed _

theorem splits_tag : Splits rendering tag Kind.name splitTag where
  empty _ := rfl
  taken allowed kind rest := by
    rw [splitTag, aside_key allowed, pure_bind, readTag_name]
    rfl
  kept allowed different value rest found := by
    rw [splitTag, aside_key allowed, pure_bind]
    split
    · next equal => exact absurd (Buffer.text.inj equal) different
    · rfl

/-- The fields beside the tag, once kept, give the config back. -/
theorem readAs_kept (config : Config) {others : List (String × Json)}
    (arranged : others.Perm (arrangement.applyFields config.untagged)) :
    readAs (.mapping (Buffer.ofFields others)) config.kind = pure config := by
  cases config with
  | cuckoo config =>
    obtain rfl : others = [] := arranged.eq_nil
    have reads : Buffer.rendering.Reads Cuckoo.read (.obj []) config := Cuckoo.reads_empty config
    exact congrArg (Config.cuckoo <$> ·) (reads 0 rfl)
  | redis config =>
    have reads : Buffer.rendering.Reads Redis.read (.obj others) config :=
      Redis.reads_fields arrangement config arranged
    exact congrArg (Config.redis <$> ·) (reads 0 rfl)
  | rocksDb config =>
    have reads : Buffer.rendering.Reads RocksDb.read (.obj others) config :=
      RocksDb.reads_fields arrangement config arranged
    exact congrArg (Config.rocksDb <$> ·) (reads 0 rfl)

theorem reads_fields (config : Config) {fields : List (String × Json)}
    (arranged : fields.Perm (arrangement.applyFields config.toFields)) :
    rendering.Reads read (.obj fields) config := by
  intro level _
  have distinct : (fields.map (·.1)).Nodup :=
    nodup_arranged arrangement arranged config.nodup_toFields
  rw [toFields_eq_cons, arrangement.applyFields_cons_str] at arranged
  have tagged : (tag, .str config.kind.name) ∈ fields :=
    arranged.symm.subset List.mem_cons_self
  have others : (fields.filter fun field => field.1 ≠ tag).Perm
      (arrangement.applyFields config.untagged) :=
    perm_filter_key arranged (by rw [keys_applyFields]; exact config.tag_not_mem_untagged)
  rw [read, rendering.place, rendering.tagged, rendering.entries_eq, Json.add_depth_obj]
  simp only [map_eq_pure_bind, bind_assoc, pure_bind, readParts]
  -- The depth is checked while the fields are put aside; what is kept has no bound.
  refine Reading.upTo_bind (Nat.le_add_right _ _) fun enough => ?_
  rw [splits_tag.takes enough config.kind fields distinct tagged]
  refine Reading.upTo_bind (Nat.le_refl _) fun most => ?_
  simp only [pure_bind, readAs_kept arrangement config others, Reading.upTo_of_allows most]

theorem reads (config : Config) :
    rendering.Reads read (arrangement.apply config.toJson) config := by
  obtain ⟨fields, same, arranged⟩ := arrangement.apply_obj config.nodup_toFields
  rw [toJson, same]
  exact config.reads_fields arrangement arranged

end Config

end Backend

end KvTables
