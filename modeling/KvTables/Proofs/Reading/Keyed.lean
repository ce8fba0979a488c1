import KvTables.Proofs.Json.Repeats
import KvTables.Proofs.Reading.Records
import KvTables.Proofs.Reading.Settled

/-! What an object has to give for a record to be read from it.

Each field stands there once, under its name or an alias of it, and is read from what stands there; or it
does not stand there, and takes the value that the shape states for it. Fields under other keys do not
matter.
-/

set_option autoImplicit false

namespace KvTables

variable {α β : Type}

namespace Reading

theorem pure_inj {value other : α} (same : (pure value : Reading α) = pure other) : value = other := by
  have ran : (pure value : Reading α) .initial 0 = (pure other : Reading α) .initial 0 := by rw [same]
  exact Except.ok.inj (congrArg Outcome.result ran)

theorem fail_ne_pure (fault : Fault) (value : α) : (fail fault : Reading α) ≠ pure value := by
  intro same
  have ran : (fail fault : Reading α) .initial 0 = (pure value : Reading α) .initial 0 := by rw [same]
  cases congrArg Outcome.result ran

theorem guard_eq_pure {condition : Prop} [Decidable condition] {cause : Mismatch} {done : Unit} :
    (if condition then mismatch cause else pure () : Reading Unit) = pure done ↔ ¬condition := by
  split
  · next holds => exact ⟨fun same => absurd same (fail_ne_pure _ _), fun never => absurd holds never⟩
  · next never => exact ⟨fun _ => never, fun _ => rfl⟩

theorem Settles.pure_or_fail {reading : Reading α} (settled : reading.Settled) :
    (∃ value, reading = pure value) ∨ ∃ fault, reading = fail fault := by
  cases settled with
  | @value found => exact .inl ⟨found, rfl⟩
  | fault fault => exact .inr ⟨fault, rfl⟩

/-- A settled reading returns a value of which it is known beforehand. -/
theorem Settles.value_run_eq_ok {reading : Reading α} (settled : reading.Settled) {files : Files}
    {result : α} : (reading.run files).value = .ok result ↔ reading = pure result := by
  cases settled with
  | @value found =>
    exact ⟨fun same => congrArg pure (Except.ok.inj same), fun same => congrArg Except.ok (pure_inj same)⟩
  | fault fault => exact ⟨nofun, fun same => absurd same (fail_ne_pure _ _)⟩

/-- Two settled readings in turn only return a value if each of them does. -/
theorem Settles.bind_eq_pure {first : Reading α} (settled : first.Settled) {next : α → Reading β}
    {result : β} :
    (first >>= next) = pure result ↔ ∃ value, first = pure value ∧ next value = pure result := by
  constructor
  · intro same
    cases settled with
    | @value found =>
      rw [pure_bind] at same
      exact ⟨found, rfl, same⟩
    | fault fault => exact absurd same (fail_ne_pure fault result)
  · rintro ⟨value, rfl, goesOn⟩
    rw [pure_bind, goesOn]

/-- What has been read is only given another form, which can be undone. -/
theorem Settles.reshaped_eq_pure {reading : Reading α} (settled : reading.Settled) {reshape : α → β}
    {restore : β → α} (restored : ∀ value, restore (reshape value) = value)
    (reshaped : ∀ result, reshape (restore result) = result) {result : β} :
    (do return reshape (← reading)) = (pure result : Reading β) ↔
      reading = pure (restore result) := by
  rw [settled.bind_eq_pure]
  constructor
  · rintro ⟨value, read, same⟩
    rw [read, ← pure_inj same, restored]
  · intro read
    exact ⟨restore result, read, congrArg pure (reshaped result)⟩

end Reading

open Reading (Settled)

namespace Json

/-- A key that repeats nowhere has one value or none. -/
theorem under_eq_lookup {key : String} {fields : List (String × Json)}
    (distinct : (fields.map (·.1)).Nodup) : under key fields = (fields.lookup key).toList := by
  cases found : fields.lookup key with
  | none =>
    refine List.eq_nil_iff_forall_not_mem.2 fun value member => ?_
    have unequal := List.lookup_eq_none_iff.1 found (key, value) (mem_under.1 member)
    simp at unequal
  | some value =>
    obtain ⟨before, after, rfl, -⟩ := List.lookup_eq_some_iff.1 found
    exact under_of_mem distinct (List.mem_append_right _ List.mem_cons_self)

theorem text_eq_pure (expected : String) (json : Json) (text : String) :
    Source.text expected json = pure text ↔ json = .str text := by
  constructor
  · intro same
    cases json with
    | str given => exact congrArg Json.str (Reading.pure_inj same)
    | _ => exact absurd same (Reading.fail_ne_pure _ _)
  · rintro rfl
    rfl

theorem flag_eq_pure (json : Json) (flag : Bool) :
    Source.flag json = pure flag ↔ json = .bool flag := by
  constructor
  · intro same
    cases json with
    | bool given => exact congrArg Json.bool (Reading.pure_inj same)
    | _ => exact absurd same (Reading.fail_ne_pure _ _)
  · rintro rfl
    rfl

/-- What stands for a value that can be left out: nothing, null, or the value as it is written. -/
inductive Nullable (write : α → Json) : Option Json → Option α → Prop where
  | absent : Nullable write none none
  | null : Nullable write (some .null) none
  | given (value : α) : Nullable write (some (write value)) (some value)

@[simp] theorem nullable_none {write : α → Json} {value : Option α} :
    Nullable write none value ↔ value = none :=
  ⟨fun stands => by cases stands; rfl, fun same => same ▸ .absent⟩

/-- A value that can be null is read from what stands for it. -/
theorem optional_eq_pure {read : Json → Reading α} {write : α → Json}
    (notNull : ∀ value, write value ≠ .null) (settled : ∀ json, (read json).Settled) {json : Json}
    (reads : ∀ value, read json = pure value ↔ json = write value) (value : Option α) :
    Reading.optional read json = pure value ↔ Nullable write (some json) value := by
  by_cases null : json = .null
  · subst null
    constructor
    · intro same
      obtain rfl : none = value := Reading.pure_inj same
      exact .null
    · intro stands
      generalize found : some Json.null = json at stands
      cases stands with
      | absent => cases found
      | null => rfl
      | given value => exact absurd (Option.some.inj found).symm (notNull value)
  · have given : Reading.optional read json = read json >>= fun value => pure (some value) := by
      rw [← map_eq_pure_bind]
      cases json with
      | null => exact absurd rfl null
      | _ => rfl
    rw [given, (settled json).bind_eq_pure]
    constructor
    · rintro ⟨inner, read, same⟩
      obtain rfl := Reading.pure_inj same
      obtain rfl := (reads inner).1 read
      exact .given inner
    · intro stands
      generalize found : some json = json at stands
      cases stands with
      | absent => cases found
      | null => exact absurd (Option.some.inj found) null
      | given inner => exact ⟨inner, (reads inner).2 (Option.some.inj found), rfl⟩

end Json

namespace Shape

variable {F : Type} {Value : F → Type} (shape : Shape F Value)

def standing [DecidableEq F] (field : F) (fields : List (String × Json)) : List Json :=
  (fields.filter fun entry => shape.find? (.text entry.1) = some field).map (·.2)

/-- The value that the fields of an object give a field of a record. -/
inductive Gives [DecidableEq F] (readField : (field : F) → Json → Reading (Value field))
    (fields : List (String × Json)) (field : F) : Value field → Prop where
  | read {json : Json} {value : Value field} (once : shape.standing field fields = [json])
      (read : readField field json = pure value) : Gives readField fields field value
  | leftOut {value : Value field} (nothing : shape.standing field fields = [])
      (absent : shape.absent field = some value) : Gives readField fields field value

variable {shape}

/-- Without aliases, a key leads to the field of that name. -/
theorem find?_text_eq_some (named : shape.Named) (plain : ∀ field, shape.aliases field = []) {key : String}
    {field : F} : shape.find? (.text key) = some field ↔ key = shape.name field := by
  constructor
  · intro found
    have spelled := List.find?_some found
    rw [plain field] at spelled
    exact (by simpa using spelled : shape.name field = key).symm
  · rintro rfl
    exact named.found field

theorem close_eq_ok {slots : Slots Value} {values : (field : F) → Value field} :
    shape.close slots = .ok values ↔ ∀ field, shape.withDefaults slots field = some (values field) := by
  refine ⟨fun closed field => ?_, close_of_filled⟩
  unfold close at closed
  dsimp only at closed
  split at closed
  · cases closed
  · obtain rfl := Except.ok.inj closed
    exact (Option.some_get _).symm

variable {readField : (field : F) → Json → Reading (Value field)}

def readAt (shape : Shape F Value)
    (readField : (field : F) → Json → Reading (Value field)) (field : F) :
    Option Json → Reading (Value field)
  | some json => readField field json
  | none => match shape.absent field with
    | some value => pure value
    | none => Reading.mismatch (.missingField (shape.name field))

theorem readAt_none {field : F} {value : Value field} :
    shape.readAt readField field none = pure value ↔ shape.absent field = some value := by
  unfold readAt
  cases shape.absent field with
  | none =>
    exact ⟨fun same => absurd same (Reading.fail_ne_pure _ _), nofun⟩
  | some found =>
    exact ⟨fun same => congrArg some (Reading.pure_inj same),
      fun same => congrArg pure (Option.some.inj same)⟩

variable [DecidableEq F]

theorem standing_cons_self {field : F} {key : String} (found : shape.find? (.text key) = some field)
    (json : Json) (rest : List (String × Json)) :
    shape.standing field ((key, json) :: rest) = json :: shape.standing field rest := by
  simp [standing, found]

theorem standing_cons_other {field : F} {key : String} (other : shape.find? (.text key) ≠ some field)
    (json : Json) (rest : List (String × Json)) :
    shape.standing field ((key, json) :: rest) = shape.standing field rest := by
  simp [standing, other]

/-- Without aliases, a field stands under its name. -/
theorem standing_eq_under (named : shape.Named) {field : F} (plain : ∀ field, shape.aliases field = [])
    (fields : List (String × Json)) :
    shape.standing field fields = Json.under (shape.name field) fields := by
  simp only [standing, Json.under, find?_text_eq_some named plain]

/-- What a slot holds before and after the fields of an object have been read. -/
inductive Fills (shape : Shape F Value) (readField : (field : F) → Json → Reading (Value field))
    (fields : List (String × Json)) (field : F) : Option (Value field) → Option (Value field) → Prop where
  | read {json : Json} {value : Value field} (once : shape.standing field fields = [json])
      (read : readField field json = pure value) : Fills shape readField fields field none (some value)
  | leftOut {held : Option (Value field)} (nothing : shape.standing field fields = []) :
    Fills shape readField fields field held held

namespace Fills

variable {field : F} {before after : Option (Value field)} {key : String} {json : Json}
  {rest : List (String × Json)}

theorem eq_of_nil (fills : shape.Fills readField [] field before after) : before = after := by
  obtain ⟨once, -⟩ | - := fills
  · cases once
  · rfl

theorem cons_other (other : shape.find? (.text key) ≠ some field) :
    shape.Fills readField ((key, json) :: rest) field before after ↔
      shape.Fills readField rest field before after := by
  have same := standing_cons_other other json rest
  constructor
  · rintro (⟨once, read⟩ | ⟨nothing⟩)
    · exact .read (same ▸ once) read
    · exact .leftOut (same ▸ nothing)
  · rintro (⟨once, read⟩ | ⟨nothing⟩)
    · exact .read (same.trans once) read
    · exact .leftOut (same.trans nothing)

theorem cons_self {value : Value field} (found : shape.find? (.text key) = some field)
    (read : readField field json = pure value) :
    shape.Fills readField ((key, json) :: rest) field none after ↔
      shape.Fills readField rest field (some value) after := by
  have more := standing_cons_self found json rest
  constructor
  · rintro (⟨once, again⟩ | ⟨nothing⟩)
    · obtain ⟨rfl, alone⟩ := List.cons.inj (more.symm.trans once)
      obtain rfl := Reading.pure_inj (read.symm.trans again)
      exact .leftOut alone
    · cases more.symm.trans nothing
  · rintro (- | ⟨nothing⟩)
    exact .read (nothing ▸ more) read

/-- What stands for a field has to be read into a free slot. -/
theorem of_standing (found : shape.find? (.text key) = some field)
    (fills : shape.Fills readField ((key, json) :: rest) field before after) :
    before = none ∧ ∃ value, readField field json = pure value := by
  have more := standing_cons_self found json rest
  obtain ⟨once, read⟩ | ⟨nothing⟩ := fills
  · obtain ⟨rfl, -⟩ := List.cons.inj (more.symm.trans once)
    exact ⟨rfl, _, read⟩
  · cases more.symm.trans nothing

end Fills

theorem readPairs_cons (key : String) (json : Json) (rest : List (Json × Json)) (slots : Slots Value) :
    shape.readPairs readField ((Json.str key, json) :: rest) slots =
      match shape.find? (.text key) with
      | none => shape.readPairs readField rest slots
      | some field =>
        if (slots field).isSome then Reading.mismatch (.duplicateField (shape.name field))
        else readField field json >>= fun read => shape.readPairs readField rest (slots.fill field read) :=
  rfl

/-- The slots are filled by what stands for their fields, if that can be read. -/
theorem readPairs_eq_pure (settled : ∀ field json, (readField field json).Settled)
    (fields : List (String × Json)) {slots filled : Slots Value} :
    shape.readPairs readField (fields.map fun field => (.str field.1, field.2)) slots = pure filled ↔
      ∀ field, shape.Fills readField fields field (slots field) (filled field) := by
  induction fields generalizing slots with
  | nil =>
    constructor
    · intro same field
      obtain rfl := Reading.pure_inj same
      exact .leftOut rfl
    · intro fills
      have kept : slots = filled := funext fun field => Fills.eq_of_nil (fills field)
      rw [kept]
      rfl
  | cons entry rest ih =>
    obtain ⟨key, json⟩ := entry
    rw [List.map_cons, readPairs_cons]
    cases found : shape.find? (.text key) with
    | none =>
      refine ih.trans (forall_congr' fun field => (Fills.cons_other ?_).symm)
      simp [found]
    | some field =>
      dsimp only
      -- What is left for the rest of the fields is a slot that has just been filled, or was before.
      by_cases free : slots field = none
      · rw [free, if_neg (by simp)]
        obtain ⟨value, read⟩ | ⟨fault, refused⟩ := (settled field json).pure_or_fail
        · rw [read, pure_bind]
          refine ih.trans (forall_congr' fun other => ?_)
          by_cases same : field = other
          · subst same
            rw [Slots.fill_self, free]
            exact (Fills.cons_self found read).symm
          · rw [Slots.fill_other _ _ same]
            refine (Fills.cons_other ?_).symm
            rw [found]
            exact fun equal => same (Option.some.inj equal)
        · rw [refused]
          refine ⟨fun same => absurd same (Reading.fail_ne_pure _ _), fun fills => ?_⟩
          obtain ⟨-, value, read⟩ := Fills.of_standing found (fills field)
          exact absurd (refused.symm.trans read) (Reading.fail_ne_pure _ _)
      · rw [if_pos (Option.isSome_iff_ne_none.2 free)]
        refine ⟨fun same => absurd same (Reading.fail_ne_pure _ _), fun fills => ?_⟩
        exact absurd (Fills.of_standing found (fills field)).1 free

theorem gives_iff {fields : List (String × Json)} {field : F} {value : Value field} :
    shape.Gives readField fields field value ↔ ∃ held : Option (Value field),
      shape.Fills readField fields field none held ∧ held.or (shape.absent field) = some value := by
  constructor
  · rintro (⟨once, read⟩ | ⟨nothing, absent⟩)
    · exact ⟨some value, .read once read, rfl⟩
    · exact ⟨none, .leftOut nothing, absent⟩
  · rintro ⟨held, ⟨once, read⟩ | ⟨nothing⟩, given⟩
    · obtain rfl := Option.some.inj given
      exact .read once read
    · exact .leftOut nothing given

theorem gives_of_standing {found : Option Json} {fields : List (String × Json)} {field : F}
    (standing : shape.standing field fields = found.toList) (value : Value field) :
    shape.Gives readField fields field value ↔ shape.readAt readField field found = pure value := by
  cases found with
  | none =>
    refine ⟨?_, fun absent => .leftOut standing (readAt_none.1 absent)⟩
    rintro (⟨once, -⟩ | ⟨-, absent⟩)
    · cases standing.symm.trans once
    · exact readAt_none.2 absent
  | some json =>
    refine ⟨?_, .read standing⟩
    rintro (⟨once, read⟩ | ⟨nothing, -⟩)
    · obtain ⟨rfl, -⟩ := List.cons.inj (standing.symm.trans once)
      exact read
    · cases standing.symm.trans nothing

theorem read_obj (fields : List (String × Json)) :
    shape.read readField (Json.obj fields) =
      shape.readPairs readField (fields.map fun field => (.str field.1, field.2)) Slots.empty >>=
        fun slots => match shape.close slots with
          | .ok values => pure values
          | .error cause => Reading.mismatch cause := rfl

theorem read_arr (items : List Json) :
    shape.read readField (Json.arr items) =
      shape.readItems readField (pure ()) 0 shape.fields items Slots.empty >>= fun slots =>
        (Json.itemsOf items).surplus shape.fields.length >>= fun _ => match shape.close slots with
          | .ok values => pure values
          | .error cause => Reading.mismatch cause := rfl

/-- A record is read from an object if and only if the object gives each of its fields. -/
theorem read_object_eq_pure (settled : ∀ field json, (readField field json).Settled)
    (fields : List (String × Json)) (values : (field : F) → Value field) :
    shape.read readField (.obj fields) = pure values ↔
      ∀ field, shape.Gives readField fields field (values field) := by
  rw [read_obj, (Json.settling.readPairs settled _ _).bind_eq_pure]
  constructor
  · rintro ⟨slots, read, closes⟩ field
    have filled := (readPairs_eq_pure settled fields).1 read field
    split at closes
    · next closed =>
      obtain rfl := Reading.pure_inj closes
      exact gives_iff.2 ⟨slots field, filled, close_eq_ok.1 closed field⟩
    · exact absurd closes (Reading.fail_ne_pure _ _)
  · intro gives
    choose slots fills given using fun field => gives_iff.1 (gives field)
    refine ⟨slots, (readPairs_eq_pure settled fields).2 fills, ?_⟩
    rw [close_eq_ok.2 given]

end Shape

end KvTables
