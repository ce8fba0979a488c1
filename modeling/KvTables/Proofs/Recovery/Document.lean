import KvTables.Proofs.Recovery.Tagged

/-! Named configs, references to backends and documents are recovered from what they write. -/

set_option autoImplicit false

namespace KvTables

open Json (Arrangement)

variable {ν : Type} [Source ν] {rendering : Rendering ν} (arrangement : Arrangement)

namespace Backend

namespace Named

theorem id_not_mem_toFields (config : Config) : "id" ∉ config.toFields.map (·.1) := by
  rw [Config.toFields_eq_cons, List.map_cons, List.mem_cons]
  rintro (isTag | member)
  · exact absurd (show "id" = Config.tag from isTag) (by decide)
  · exact absurd (config.keys_untagged "id" member) (by decide)

theorem nodup_fields (named : Named) :
    ((("id", Json.str named.id) :: named.config.toFields).map (·.1)).Nodup :=
  List.nodup_cons.2 ⟨id_not_mem_toFields named.config, named.config.nodup_toFields⟩

theorem splits_id : Splits rendering "id" (fun name => name) splitId where
  empty _ := rfl
  taken _ name rest := by
    rw [splitId, rendering.text, pure_bind, if_pos rfl, rendering.text]
    rfl
  kept _ different value rest found := by
    rw [splitId, rendering.text, pure_bind, if_neg different]

theorem reads (named : Named) :
    rendering.Reads read (arrangement.apply named.toJson) named := by
  obtain ⟨fields, same, arranged⟩ := arrangement.apply_obj named.nodup_fields
  rw [toJson, same]
  intro level _
  have distinct : (fields.map (·.1)).Nodup := nodup_arranged arrangement arranged named.nodup_fields
  rw [arrangement.applyFields_cons_str] at arranged
  have given : ("id", .str named.id) ∈ fields := arranged.symm.subset List.mem_cons_self
  have others : (fields.filter fun field => field.1 ≠ "id").Perm
      (arrangement.applyFields named.config.toFields) :=
    perm_filter_key arranged
      (by rw [keys_applyFields]; exact id_not_mem_toFields named.config)
  have kept : Buffer.rendering.Reads Config.read
      (.obj (fields.filter fun field => field.1 ≠ "id")) named.config :=
    named.config.reads_fields arrangement others
  rw [read, rendering.place, rendering.entries_eq, Json.add_depth_obj]
  refine Reading.upTo_bind (Nat.le_add_right _ _) fun enough => ?_
  rw [splits_id.takes enough named.id fields distinct given]
  refine Reading.upTo_bind (Nat.le_refl _) fun most => ?_
  have whole : Config.read (Buffer.mapping
      (Buffer.ofFields (fields.filter fun field => field.1 ≠ "id"))) = pure named.config :=
    kept 0 rfl
  simp only [pure_bind, whole, Reading.upTo_of_allows most]

end Named

namespace Reference

theorem reads (reference : Reference) :
    rendering.Reads read (arrangement.apply reference.toJson) reference := by
  intro level allowed
  cases reference with
  | named name =>
    rw [toJson, arrangement.apply_str, read, rendering.buffer _ _ _ allowed]
    refine Reading.upTo_bind (Nat.le_refl _) fun enough => ?_
    exact (Reading.upTo_of_allows enough _).symm
  | inline config =>
    obtain ⟨fields, same, -⟩ := arrangement.apply_obj config.nodup_toFields
    have kept : Buffer.rendering.Reads Config.read (arrangement.apply config.toJson) config :=
      config.reads arrangement
    -- The attempt succeeds, and so leaves no trace of having been one.
    have whole : Config.read (Buffer.ofJson (arrangement.apply config.toJson)) = pure config :=
      kept 0 rfl
    rw [Config.toJson, same, Buffer.ofJson] at whole
    rw [toJson, Config.toJson, same, read, rendering.buffer _ _ _ allowed]
    refine Reading.upTo_bind (Nat.le_refl _) fun enough => ?_
    simp only [Buffer.ofJson, whole, Reading.attempt_pure, pure_bind,
      Reading.upTo_of_allows enough]

end Reference

namespace Document

theorem named : shape.Named where
  distinct := by decide
  found field := by cases field; rfl

def written (document : Document) : Field → Option Json
  | .backends => some (.arr (document.backends.map Named.toJson))

theorem reads_backends (backends : List Named) :
    rendering.Reads (Reading.list Named.read)
      (arrangement.apply (.arr (backends.map Named.toJson))) backends := by
  rw [arrangement.apply_arr, List.map_map]
  apply Rendering.Reads.list
  induction backends with
  | nil => exact List.Forall₂.nil
  | cons first rest ih => exact List.Forall₂.cons (first.reads arrangement) ih

theorem reads (document : Document) :
    rendering.Reads read (arrangement.apply document.toJson) document := by
  have laidOut : document.toJson = .obj (shape.layout document.written) := rfl
  have reads : rendering.Reads (shape.read readField)
      (arrangement.apply (.obj (shape.layout document.written))) fun _ => document.backends := by
    refine Shape.reads_arranged named arrangement (fun field json given => ?_)
      (fun field none => by cases none)
    obtain rfl := Option.some.inj given
    exact reads_backends arrangement document.backends
  rw [laidOut]
  exact reads.map fun slots => Document.mk (slots .backends)

end Document

end Backend

end KvTables
