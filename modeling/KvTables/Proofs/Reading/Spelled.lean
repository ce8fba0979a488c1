import KvTables.Proofs.Reading.Keyed

/-! Keys that lead to fields of a record, and keys that do not.

A record is read from what stands under the names and the aliases of its fields, whatever else an object
holds. Where a field is given once, it does not matter under which of them.
-/

set_option autoImplicit false

namespace KvTables

def Json.Object.respelled (object : Json.Object) (spell : String → String) : Json.Object :=
  .ofFields (object.fields.map fun entry => (spell entry.1, entry.2))

namespace Shape

variable {F : Type} {Value : F → Type} (shape : Shape F Value)

def Spelled : Prop :=
  ∀ field, ∀ key ∈ shape.name field :: shape.aliases field, shape.find? (.text key) = some field

/-- A change of keys that leads to the same fields, and leaves the keys alone that lead to none. -/
structure Respelling (spell : String → String) : Prop where
  field : ∀ key, shape.find? (.text (spell key)) = shape.find? (.text key)
  others : ∀ key, shape.find? (.text key) = none → spell key = key

def known (fields : List (String × Json)) : List (String × Json) :=
  fields.filter fun entry => (shape.find? (.text entry.1)).isSome

variable {shape} {readField : (field : F) → Json → Reading (Value field)}
  {fields others : List (String × Json)} {spell : String → String}

theorem find?_spelled (spelled : shape.Spelled) {key : String} {field : F} :
    shape.find? (.text key) = some field ↔ key ∈ shape.name field :: shape.aliases field := by
  constructor
  · intro found
    have named := List.find?_some found
    simpa [eq_comm (a := key)] using named
  · exact spelled field key

/-- What is given under known keys alone tells fields in order apart. -/
theorem known_eq (increasing : Sorted.Increasing fields) (increasingOthers : Sorted.Increasing others)
    (same : ∀ key, (shape.find? (.text key)).isSome → fields.lookup key = others.lookup key) :
    shape.known fields = shape.known others := by
  refine Sorted.Increasing.ext (increasing.filter _) (increasingOthers.filter _) fun key => ?_
  have kept (fields : List (String × Json)) : Json.under key (shape.known fields) =
      if (shape.find? (.text key)).isSome then Json.under key fields else [] :=
    Json.under_filter (fun key => (shape.find? (.text key)).isSome) key fields
  rw [Json.filter_eq_under, Json.filter_eq_under, kept, kept]
  split
  · next found =>
    rw [Json.under_eq_lookup increasing.nodup, Json.under_eq_lookup increasingOthers.nodup,
      same key found]
  · rfl

variable [DecidableEq F]

theorem readPairs_known (fields : List (String × Json)) (slots : Slots Value) :
    shape.readPairs readField (fields.map fun field => (.str field.1, field.2)) slots =
      shape.readPairs readField
        ((shape.known fields).map fun field => (.str field.1, field.2)) slots := by
  induction fields generalizing slots with
  | nil => rfl
  | cons entry rest ih =>
    obtain ⟨key, json⟩ := entry
    rw [List.map_cons, readPairs_cons]
    cases found : shape.find? (.text key) with
    | none =>
      have passed : shape.known ((key, json) :: rest) = shape.known rest :=
        List.filter_cons_of_neg (by simp [found])
      rw [passed]
      exact ih slots
    | some field =>
      have kept : shape.known ((key, json) :: rest) = (key, json) :: shape.known rest :=
        List.filter_cons_of_pos (by simp [found])
      rw [kept, List.map_cons, readPairs_cons, found]
      simp only [ih]

/-- Keys that lead to no field do not matter, not even to what is at fault. -/
theorem read_congr (increasing : Sorted.Increasing fields)
    (increasingOthers : Sorted.Increasing others)
    (same : ∀ key, (shape.find? (.text key)).isSome → fields.lookup key = others.lookup key) :
    shape.read readField (Json.obj fields) = shape.read readField (Json.obj others) := by
  rw [read_obj, read_obj, readPairs_known fields, readPairs_known others,
    known_eq increasing increasingOthers same]

/-- A field with an alias stands under either of the two. -/
theorem standing_perm (spelled : shape.Spelled) {field : F} {other : String}
    (aliased : shape.aliases field = [other]) (different : shape.name field ≠ other)
    (fields : List (String × Json)) :
    (shape.standing field fields).Perm
      (Json.under (shape.name field) fields ++ Json.under other fields) := by
  have found (key : String) :
      shape.find? (.text key) = some field ↔ key = shape.name field ∨ key = other := by
    rw [find?_spelled spelled, aliased, List.mem_cons, List.mem_singleton]
  induction fields with
  | nil => exact List.Perm.refl []
  | cons entry rest ih =>
    obtain ⟨key, json⟩ := entry
    by_cases own : key = shape.name field
    · rw [standing_cons_self ((found key).2 (.inl own)), own, Json.under_cons_self,
        Json.under_cons_other different]
      exact ih.cons json
    · by_cases also : key = other
      · rw [standing_cons_self ((found key).2 (.inr also)), also, Json.under_cons_self,
          Json.under_cons_other different.symm]
        exact (ih.cons json).trans List.perm_middle.symm
      · rw [standing_cons_other fun same => ((found key).1 same).elim own also,
          Json.under_cons_other own, Json.under_cons_other also]
        exact ih

theorem Gives.of_perm {field : F} {value : Value field}
    (gives : shape.Gives readField fields field value)
    (permuted : (shape.standing field others).Perm (shape.standing field fields)) :
    shape.Gives readField others field value := by
  obtain ⟨once, read⟩ | ⟨nothing, absent⟩ := gives
  · exact .read (List.perm_singleton.1 (once ▸ permuted)) read
  · exact .leftOut (List.perm_nil.1 (nothing ▸ permuted)) absent

/-- What a record is read from gives each field in one place at most. -/
theorem Gives.once {field : F} {value : Value field}
    (gives : shape.Gives readField fields field value) {entry other : String × Json}
    (held : entry ∈ fields) (found : shape.find? (.text entry.1) = some field)
    (heldOther : other ∈ fields) (foundOther : shape.find? (.text other.1) = some field) :
    entry = other := by
  have member : entry ∈ fields.filter fun entry => shape.find? (.text entry.1) = some field :=
    List.mem_filter.2 ⟨held, decide_eq_true found⟩
  have memberOther : other ∈ fields.filter fun entry => shape.find? (.text entry.1) = some field :=
    List.mem_filter.2 ⟨heldOther, decide_eq_true foundOther⟩
  obtain ⟨once, -⟩ | ⟨nothing, -⟩ := gives
  · obtain ⟨only, alone, -⟩ := List.map_eq_singleton_iff.1 once
    rw [alone] at member memberOther
    exact (List.mem_singleton.1 member).trans (List.mem_singleton.1 memberOther).symm
  · rw [List.map_eq_nil_iff.1 nothing] at member
    cases member

namespace Respelling

variable (respelling : shape.Respelling spell)

include respelling

theorem standing (field : F) (fields : List (String × Json)) :
    shape.standing field (fields.map fun entry => (spell entry.1, entry.2)) =
      shape.standing field fields := by
  simp only [Shape.standing, List.filter_map, List.map_map, Function.comp_def, respelling.field]

theorem nodup (distinct : (fields.map (·.1)).Nodup) {values : (field : F) → Value field}
    (gives : ∀ field, shape.Gives readField fields field (values field)) :
    ((fields.map fun entry => (spell entry.1, entry.2)).map (·.1)).Nodup := by
  rw [List.map_map]
  refine List.Nodup.map_on (fun entry held other heldOther same => ?_) distinct.of_map
  have together : shape.find? (.text entry.1) = shape.find? (.text other.1) := by
    rw [← respelling.field entry.1, ← respelling.field other.1]
    exact congrArg (fun key => shape.find? (.text key)) same
  cases found : shape.find? (.text entry.1) with
  | none =>
    have key : entry.1 = other.1 := by
      rw [← respelling.others _ found, ← respelling.others _ (together.symm.trans found)]
      exact same
    exact List.inj_on_of_nodup_map distinct held heldOther key
  | some field => exact (gives field).once held found heldOther (together.symm.trans found)

/-- What is read from an object is read from it under other spellings as well. -/
theorem read_respelled (settled : ∀ field json, (readField field json).Settled) {object : Json.Object}
    {values : (field : F) → Value field} (read : shape.read readField object.toJson = pure values) :
    shape.read readField (object.respelled spell).toJson = pure values := by
  have gives := (read_object_eq_pure settled object.fields values).1 read
  have distinct := respelling.nodup object.canonical.1.nodup gives
  have kept : Json.canonicalFields (object.fields.map fun entry => (spell entry.1, entry.2)) =
      object.fields.map fun entry => (spell entry.1, entry.2) := by
    refine Json.canonicalFields_eq_self _ (Json.canonicalFields_iff.2 fun entry member => ?_)
    obtain ⟨inner, held, rfl⟩ := List.mem_map.1 member
    exact Json.canonicalFields_iff.1 object.canonical.2 inner held
  refine (read_object_eq_pure settled _ values).2 fun field => (gives field).of_perm ?_
  rw [← respelling.standing field object.fields]
  have placed : (object.respelled spell).fields.Perm
      (object.fields.map fun entry => (spell entry.1, entry.2)) :=
    (Json.ofList_canonicalFields_perm distinct).trans (List.Perm.of_eq kept)
  exact (placed.filter _).map _

end Respelling

end Shape

end KvTables
