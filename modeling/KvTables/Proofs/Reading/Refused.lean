import KvTables.Proofs.Reading.Keyed

/-! Why a record cannot be read from an object.

The fields are read in the order of their keys, and the first that cannot be read stops that. Only once all
of them have been read is it asked, in declared order, whether one is missing that has to be given. What
stands under other keys is passed over.
-/

set_option autoImplicit false

namespace KvTables.Shape

variable {F : Type} {Value : F → Type} (shape : Shape F Value)
  (readField : (field : F) → Json → Reading (Value field))

/-- Reading fields one after the other ends with a fault, at the first of them or further on. -/
inductive Stops : List (String × Json) → Fault → Prop where
  | here {key : String} {json : Json} {rest : List (String × Json)} {field : F} {fault : Fault}
      (found : shape.find? (.text key) = some field)
      (refused : readField field json = Reading.fail fault) : Stops ((key, json) :: rest) fault
  | later {key : String} {json : Json} {rest : List (String × Json)} {fault : Fault}
      (reads : ∀ field, shape.find? (.text key) = some field →
        ∃ value, readField field json = pure value)
      (stops : Stops rest fault) : Stops ((key, json) :: rest) fault

/-- No field under a smaller key is at fault as well. -/
structure FirstUnread (fields : List (String × Json)) (field : F) (json : Json) (fault : Fault) :
    Prop where
  held : (shape.name field, json) ∈ fields
  refused : readField field json = Reading.fail fault
  first : ∀ other given cause, (shape.name other, given) ∈ fields →
    readField other given = Reading.fail cause → other ≠ field → shape.name field < shape.name other

/-- What is at fault with the fields of an object: the first that cannot be read, or else the first that is
missing. -/
inductive Refuses (fields : List (String × Json)) : Fault → Prop where
  | unread {field : F} {json : Json} {fault : Fault}
      (unread : shape.FirstUnread readField fields field json fault) : Refuses fields fault
  | missing {field : F}
      (readable : ∀ other given, (shape.name other, given) ∈ fields →
        ∃ value, readField other given = pure value)
      (first : (shape.fields.find? fun field =>
        (fields.lookup (shape.name field)).isNone && (shape.absent field).isNone) = some field) :
      Refuses fields (.mismatch none (.missingField (shape.name field)))

variable {shape readField} {fields : List (String × Json)}

/-- Where the keys are in order, the field that stops the reading is the first at fault. -/
theorem Stops.firstUnread (named : shape.Named) (plain : ∀ field, shape.aliases field = [])
    {fault : Fault} (stops : shape.Stops readField fields fault)
    (increasing : Sorted.Increasing fields) :
    ∃ field json, shape.FirstUnread readField fields field json fault := by
  induction stops with
  | @here key json rest field fault found refused =>
    obtain rfl := (find?_text_eq_some named plain).1 found
    obtain ⟨above, -⟩ := List.pairwise_cons.1 increasing
    refine ⟨field, json, List.mem_cons_self, refused, fun other given cause held _ different => ?_⟩
    rcases List.mem_cons.1 held with same | later
    · exact absurd (named.injective (congrArg Prod.fst same)) different
    · exact above _ later
  | @later key json rest fault reads stops ih =>
    obtain ⟨field, found, held, refused, first⟩ := ih (List.pairwise_cons.1 increasing).2
    refine ⟨field, found, List.mem_cons_of_mem _ held, refused,
      fun other given cause member failed different => ?_⟩
    rcases List.mem_cons.1 member with same | later
    · obtain ⟨rfl, rfl⟩ := Prod.mk.inj same
      obtain ⟨value, read⟩ := reads other (named.found other)
      exact absurd (failed.symm.trans read) (Reading.fail_ne_pure _ _)
    · exact first other given cause later failed different

theorem close_of_missing {slots : Slots Value} {field : F}
    (missing : (shape.fields.find? fun field => (shape.withDefaults slots field).isNone) =
      some field) :
    shape.close slots = .error (.missingField (shape.name field)) := by
  unfold close
  dsimp only
  split
  · next other found =>
    obtain rfl : other = field := Option.some.inj (found.symm.trans missing)
    rfl
  · next none => cases none.symm.trans missing

theorem exists_close_of_complete {slots : Slots Value}
    (complete : (shape.fields.find? fun field => (shape.withDefaults slots field).isNone) = none) :
    ∃ values, shape.close slots = .ok values := by
  unfold close
  dsimp only
  split
  · next field found => cases found.symm.trans complete
  · exact ⟨_, rfl⟩

variable [DecidableEq F]

/-- The fields are all read, or one of them stops that. -/
theorem readPairs_or_stops (named : shape.Named) (plain : ∀ field, shape.aliases field = [])
    (settled : ∀ field json, (readField field json).Settled) (distinct : (fields.map (·.1)).Nodup)
    {slots : Slots Value} (free : ∀ field, shape.name field ∈ fields.map (·.1) → slots field = none) :
    (∃ filled, shape.readPairs readField (fields.map fun field => (.str field.1, field.2)) slots =
      pure filled) ∨
    ∃ fault, shape.readPairs readField (fields.map fun field => (.str field.1, field.2)) slots =
      Reading.fail fault ∧ shape.Stops readField fields fault := by
  induction fields generalizing slots with
  | nil => exact .inl ⟨slots, rfl⟩
  | cons entry rest ih =>
    obtain ⟨key, json⟩ := entry
    obtain ⟨fresh, distinctRest⟩ := List.nodup_cons.1 distinct
    have freeRest (field : F) (member : shape.name field ∈ rest.map (·.1)) : slots field = none :=
      free field (List.mem_cons_of_mem _ member)
    rw [List.map_cons, readPairs_cons]
    cases found : shape.find? (.text key) with
    | none =>
      obtain read | ⟨fault, failed, stops⟩ := ih distinctRest freeRest
      · exact .inl read
      · exact .inr ⟨fault, failed, .later (fun field other => nomatch found.symm.trans other) stops⟩
    | some field =>
      obtain rfl := (find?_text_eq_some named plain).1 found
      dsimp only
      rw [free field List.mem_cons_self]
      obtain ⟨value, read⟩ | ⟨fault, refused⟩ := (settled field json).pure_or_fail
      · -- Only this slot is filled, and its field does not come again.
        have freeStill (other : F) (member : shape.name other ∈ rest.map (·.1)) :
            slots.fill field value other = none := by
          have different : field ≠ other := fun same => fresh (same ▸ member)
          rw [Slots.fill_other _ _ different]
          exact freeRest other member
        have reads (other : F) (same : shape.find? (.text (shape.name field)) = some other) :
            ∃ value, readField other json = pure value := by
          obtain rfl := Option.some.inj (found.symm.trans same)
          exact ⟨value, read⟩
        simp only [read, pure_bind, Option.isSome_none, Bool.false_eq_true, if_false]
        obtain readRest | ⟨fault, failed, stops⟩ := ih distinctRest freeStill
        · exact .inl readRest
        · exact .inr ⟨fault, failed, .later reads stops⟩
      · refine .inr ⟨fault, ?_, .here found refused⟩
        simp only [refused, Option.isSome_none, Bool.false_eq_true, if_false]
        rfl

theorem standing_of_mem (named : shape.Named) (plain : ∀ field, shape.aliases field = [])
    (distinct : (fields.map (·.1)).Nodup) {field : F} {json : Json}
    (held : (shape.name field, json) ∈ fields) : shape.standing field fields = [json] := by
  rw [standing_eq_under named plain, Json.under_of_mem distinct held]

theorem Fills.readable {field : F} {before after : Option (Value field)} {json : Json}
    (fills : shape.Fills readField fields field before after)
    (standing : shape.standing field fields = [json]) : ∃ value, readField field json = pure value := by
  obtain ⟨once, read⟩ | ⟨nothing⟩ := fills
  · obtain ⟨rfl, -⟩ := List.cons.inj (standing.symm.trans once)
    exact ⟨_, read⟩
  · cases standing.symm.trans nothing

/-- What is missing once all fields have been read is what neither stands there nor can be left out. -/
theorem Fills.isNone_withDefaults (named : shape.Named) (plain : ∀ field, shape.aliases field = [])
    (distinct : (fields.map (·.1)).Nodup) {filled : Slots Value} {field : F}
    (fills : shape.Fills readField fields field none (filled field)) :
    (shape.withDefaults filled field).isNone =
      ((fields.lookup (shape.name field)).isNone && (shape.absent field).isNone) := by
  have standing : shape.standing field fields = (fields.lookup (shape.name field)).toList := by
    rw [standing_eq_under named plain, Json.under_eq_lookup distinct]
  unfold withDefaults
  generalize filled field = held at fills
  cases fills with
  | read once read =>
    rw [Option.toList_eq_singleton_iff.1 (standing.symm.trans once)]
    rfl
  | leftOut nothing =>
    rw [Option.toList_eq_nil_iff.1 (standing.symm.trans nothing)]
    rfl

/-- A record is read from an object, or the first fault of the object is reported. -/
theorem read_or_refuses (named : shape.Named) (plain : ∀ field, shape.aliases field = [])
    (settled : ∀ field json, (readField field json).Settled)
    (increasing : Sorted.Increasing fields) :
    (∃ values, shape.read readField (Json.obj fields) = pure values) ∨
    ∃ fault, shape.read readField (Json.obj fields) = Reading.fail fault ∧
      shape.Refuses readField fields fault := by
  have free : ∀ field, shape.name field ∈ fields.map (·.1) →
      (Slots.empty : Slots Value) field = none := fun _ _ => rfl
  rw [read_obj]
  obtain ⟨filled, read⟩ | ⟨fault, failed, stops⟩ :=
    readPairs_or_stops named plain settled increasing.nodup free
  · rw [read, pure_bind]
    have fills := (readPairs_eq_pure settled fields).1 read
    cases missing : shape.fields.find? fun field => (shape.withDefaults filled field).isNone with
    | none =>
      obtain ⟨values, closed⟩ := exists_close_of_complete missing
      rw [closed]
      exact .inl ⟨values, rfl⟩
    | some field =>
      rw [close_of_missing missing]
      refine .inr ⟨_, rfl, .missing (fun other given held => ?_) ?_⟩
      · exact (fills other).readable (standing_of_mem named plain increasing.nodup held)
      · rw [← missing]
        exact congrArg (shape.fields.find? ·) (funext fun other =>
          ((fills other).isNone_withDefaults named plain increasing.nodup).symm)
  · rw [failed]
    obtain ⟨field, json, unread⟩ := stops.firstUnread named plain increasing
    exact .inr ⟨fault, rfl, .unread unread⟩

end KvTables.Shape
