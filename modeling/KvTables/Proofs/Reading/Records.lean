import KvTables.Proofs.Reading.Reads
import Mathlib.Data.List.Nodup

/-! Records are recovered from their fields in any order.

A record is laid out as its shape says: every field that is given, under its own name. What is left
out takes the value that the shape states for it.
-/

set_option autoImplicit false

namespace KvTables

variable {F ν : Type} {Value : F → Type} [Source ν]

namespace Slots

variable [DecidableEq F]

theorem fill_self (slots : Slots Value) (field : F) (value : Value field) :
    slots.fill field value field = some value := by
  simp [fill]

theorem fill_other (slots : Slots Value) {field other : F} (value : Value field)
    (different : field ≠ other) : slots.fill field value other = slots other := by
  simp [fill, different]

end Slots

namespace Shape

variable (shape : Shape F Value)

/-- The fields of a record in declared order, without those that are left out. -/
def layout (write : F → Option Json) : List (String × Json) :=
  shape.fields.flatMap fun field => Json.field (shape.name field) (write field)

/-- No field stands twice in the declared order, and each is found by its own name. -/
structure Named : Prop where
  distinct : shape.fields.Nodup
  found : ∀ field, shape.find? (.text (shape.name field)) = some field

variable {shape}

theorem Named.injective (named : shape.Named) : Function.Injective shape.name := by
  intro field other same
  have found := named.found field
  rw [same, named.found other] at found
  exact (Option.some.inj found).symm

theorem mem_layout {write : F → Option Json} {entry : String × Json} :
    entry ∈ shape.layout write ↔
      ∃ field, entry.1 = shape.name field ∧ write field = some entry.2 := by
  simp only [layout, List.mem_flatMap]
  constructor
  · rintro ⟨field, -, member⟩
    cases given : write field with
    | none => simp [given, Json.field] at member
    | some json =>
      obtain rfl : entry = (shape.name field, json) := by simpa [given, Json.field] using member
      exact ⟨field, rfl, given⟩
  · rintro ⟨field, name, given⟩
    refine ⟨field, shape.complete field, ?_⟩
    rw [given, ← name]
    exact List.mem_singleton_self entry

theorem keys_sublist (fields : List F) (write : F → Option Json) :
    ((fields.flatMap fun field => Json.field (shape.name field) (write field)).map (·.1)).Sublist
      (fields.map shape.name) := by
  induction fields with
  | nil => exact List.Sublist.slnil
  | cons field rest ih =>
    cases given : write field with
    | none => simpa [given, Json.field] using ih.cons (shape.name field)
    | some json => simpa [given, Json.field] using ih

theorem Named.nodup_layout (named : shape.Named) (write : F → Option Json) :
    ((shape.layout write).map (·.1)).Nodup :=
  (keys_sublist shape.fields write).nodup (named.distinct.map named.injective)

theorem applyFields_layout (arrangement : Json.Arrangement) (write : F → Option Json) :
    arrangement.applyFields (shape.layout write) =
      shape.layout fun field => (write field).map arrangement.apply := by
  simp only [Json.Arrangement.applyFields, layout, List.map_flatMap]
  congr 1
  funext field
  cases write field <;> rfl

theorem close_of_filled {slots : Slots Value} {values : (field : F) → Value field}
    (filled : ∀ field, shape.withDefaults slots field = some (values field)) :
    shape.close slots = .ok values := by
  unfold close
  dsimp only
  split
  · next field missing =>
    have absent := List.find?_some missing
    simp [filled field] at absent
  · next none =>
    congr 1
    funext field
    simp [filled field]

variable [DecidableEq F] {rendering : Rendering ν}
  {readField : (field : F) → ν → Reading (Value field)}
  {values : (field : F) → Value field} {write : F → Option Json}

/-- What a slot holds once its field and those still to come have been read. -/
theorem Named.filled_cons (named : shape.Named) (values : (field : F) → Value field)
    (slots : Slots Value) {field : F} {names : List String} (fresh : shape.name field ∉ names)
    (other : F) :
    (if shape.name other ∈ names then some (values other)
      else slots.fill field (values field) other) =
      if shape.name other ∈ shape.name field :: names then some (values other)
      else slots other := by
  by_cases same : field = other
  · subst same
    rw [if_neg fresh, if_pos List.mem_cons_self, Slots.fill_self]
  · have otherName : shape.name other ≠ shape.name field := fun equal =>
      same (named.injective equal).symm
    rw [Slots.fill_other _ _ same]
    simp only [List.mem_cons, otherName, false_or]

/-- Reading distinct fields in any order fills exactly their slots. -/
theorem readPairs_written (named : shape.Named)
    (reads : ∀ field json, write field = some json →
      rendering.Reads (readField field) json (values field))
    {level : Nat} (allowed : Reading.allows rendering.deepest level) (fields : List (String × Json))
    (written : ∀ entry ∈ fields, ∃ field, entry.1 = shape.name field ∧ write field = some entry.2)
    (distinct : (fields.map (·.1)).Nodup) (slots : Slots Value)
    (free : ∀ field, shape.name field ∈ fields.map (·.1) → slots field = none) :
    ∃ filled : Slots Value,
      shape.readPairs readField (rendering.pairs level fields) slots =
        Reading.upTo rendering.deepest (level + Json.depthFields fields) filled ∧
      ∀ field, filled field =
        if shape.name field ∈ fields.map (·.1) then some (values field) else slots field := by
  induction fields generalizing slots with
  | nil => exact ⟨slots, (Reading.upTo_of_allows allowed slots).symm, by simp⟩
  | cons entry rest ih =>
    obtain ⟨key, json⟩ := entry
    obtain ⟨field, rfl, given⟩ := written (key, json) List.mem_cons_self
    obtain ⟨fresh, distinctRest⟩ := List.nodup_cons.1 distinct
    -- Filling this slot leaves those of the fields still to come free, their names being others.
    have freeRest : ∀ other, shape.name other ∈ rest.map (·.1) →
        slots.fill field (values field) other = none := by
      intro other member
      have different : field ≠ other := fun same => fresh (same ▸ member)
      rw [Slots.fill_other _ _ different]
      exact free other (List.mem_cons_of_mem _ member)
    obtain ⟨filled, readRest, contents⟩ := ih
      (fun entry member => written entry (List.mem_cons_of_mem _ member)) distinctRest
      (slots.fill field (values field)) freeRest
    refine ⟨filled, ?_, fun other => ?_⟩
    · have unread : slots field = none := free field List.mem_cons_self
      rw [Json.depthFields, ← Nat.add_max_add_left]
      simp only [rendering.pairs_cons, readPairs, rendering.name, pure_bind, named.found, unread,
        Option.isSome_none, Bool.false_eq_true, if_false, reads field json given level allowed]
      exact Reading.upTo_then readRest
    · rw [contents other]
      exact named.filled_cons values slots fresh other

/-- A record is recovered from its fields, whatever their order. -/
theorem reads_layout (named : shape.Named)
    (reads : ∀ field json, write field = some json →
      rendering.Reads (readField field) json (values field))
    (absent : ∀ field, write field = none → shape.absent field = some (values field))
    {fields : List (String × Json)} (laidOut : fields.Perm (shape.layout write)) :
    rendering.Reads (shape.read readField) (.obj fields) values := by
  intro level _
  rw [Shape.read, rendering.place, rendering.record, rendering.entries_eq, Json.add_depth_obj]
  simp only [map_eq_pure_bind, bind_assoc, pure_bind]
  refine Reading.upTo_bind (Nat.le_add_right _ _) fun enough => ?_
  obtain ⟨filled, readAll, contents⟩ := readPairs_written named reads enough fields
    (fun entry member => mem_layout.1 (laidOut.subset member))
    ((laidOut.map _).nodup_iff.2 (named.nodup_layout write)) Slots.empty (fun _ _ => rfl)
  -- A field left out takes what the shape states for it, which is what was left out.
  have complete : ∀ field, shape.withDefaults filled field = some (values field) := by
    intro field
    cases given : write field with
    | none =>
      rw [withDefaults, contents field, absent field given]
      split <;> rfl
    | some json =>
      have member : shape.name field ∈ fields.map (·.1) := List.mem_map.2
        ⟨(shape.name field, json), laidOut.symm.subset (mem_layout.2 ⟨field, rfl, given⟩), rfl⟩
      rw [withDefaults, contents field, if_pos member, Option.some_or]
  simp only [readParts, readAll, pure_bind]
  exact Reading.upTo_bind (Nat.le_refl _) fun most => by
    rw [close_of_filled complete, Reading.upTo_of_allows most]

/-- The same for fields that have been arranged, with what stands in them. -/
theorem reads_arrangedFields (named : shape.Named) (arrangement : Json.Arrangement)
    (reads : ∀ field json, write field = some json →
      rendering.Reads (readField field) (arrangement.apply json) (values field))
    (absent : ∀ field, write field = none → shape.absent field = some (values field))
    {fields : List (String × Json)}
    (arranged : fields.Perm (arrangement.applyFields (shape.layout write))) :
    rendering.Reads (shape.read readField) (.obj fields) values := by
  rw [applyFields_layout] at arranged
  refine reads_layout named (fun field json given => ?_) (fun field none => ?_) arranged
  · obtain ⟨written, same, rfl⟩ := Option.map_eq_some_iff.1 given
    exact reads field written same
  · exact absent field (Option.map_eq_none_iff.1 none)

theorem reads_arranged (named : shape.Named) (arrangement : Json.Arrangement)
    (reads : ∀ field json, write field = some json →
      rendering.Reads (readField field) (arrangement.apply json) (values field))
    (absent : ∀ field, write field = none → shape.absent field = some (values field)) :
    rendering.Reads (shape.read readField) (arrangement.apply (.obj (shape.layout write)))
      values := by
  obtain ⟨fields, same, arranged⟩ := arrangement.apply_obj (named.nodup_layout write)
  rw [same]
  exact reads_arrangedFields named arrangement reads absent arranged

end Shape

end KvTables
