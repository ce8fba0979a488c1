import KvTables.Proofs.Agreement.Readings
import KvTables.Proofs.Reading.Records

/-! Records are read alike whatever the order of their fields.

A record takes note of the fields it knows and of no others. A field that stands twice is refused, so
what is read has each field once; as long as one field at most can look at files, these can be read in
any order.
-/

set_option autoImplicit false

namespace KvTables

open Reading (Leads Fails)

variable {F : Type} {Value : F → Type}

/-- What records are read from on both sides. On top a list has to be taken for a record by both. -/
structure Compares {ν μ : Type} [Source ν] [Source μ] (Shows Top : ν → Json → Prop)
    (Shown : μ → Json → Prop) : Prop where
  faithful : Faithful Shows
  showing : Showing Shown
  narrow {value : ν} {json : Json} (top : Top value json) : Shows value json
  lists {value : ν} {items : List Json} (top : Top value (.arr items)) : Faithful Shown

def Keyed {ν : Type} (Shows : ν → Json → Prop) (value : ν) (json : Json) : Prop :=
  Shows value json ∧ ∀ items, json ≠ .arr items

namespace Compares

variable {ν μ : Type} [Source ν] [Source μ] {Shows : ν → Json → Prop} {Shown : μ → Json → Prop}

theorem whole (faithful : Faithful Shows) (other : Faithful Shown) : Compares Shows Shows Shown where
  faithful := faithful
  showing := other.toShowing
  narrow top := top
  lists _ := other

theorem keyed (faithful : Faithful Shows) (showing : Showing Shown) :
    Compares Shows (Keyed Shows) Shown where
  faithful := faithful
  showing := showing
  narrow top := top.1
  lists top := absurd rfl (top.2 _)

end Compares

abbrev Given (Value : F → Type) : Type := List (Σ field, Reading (Value field))

/-- All but one field only return their values. -/
def Given.Calm (loud : Option F) (given : Given Value) : Prop :=
  ∀ one ∈ given, Leads (loud ≠ some one.1) Eq one.2 one.2

def Given.Follows (loud : Option F) : Given Value → Given Value → Prop :=
  List.Forall₂ fun one other => ∃ (field : F) (first second : Reading (Value field)),
    one = ⟨field, first⟩ ∧ other = ⟨field, second⟩ ∧ Leads (loud ≠ some field) Eq first second

theorem Given.Follows.calm {loud : Option F} {given others : Given Value}
    (follows : given.Follows loud others) : given.Calm loud := by
  intro one member
  obtain ⟨i, here, rfl⟩ := List.getElem_of_mem member
  obtain ⟨field, first, second, same, -, leads⟩ :=
    (List.forall₂_iff_get.1 follows).2 i here (follows.length_eq ▸ here)
  change given[i] = _ at same
  rw [same]
  exact leads.left

theorem Given.Calm.follows {loud : Option F} {given : Given Value} (calm : given.Calm loud) :
    given.Follows loud given :=
  List.forall₂_same.2 fun one member => ⟨one.1, one.2, one.2, rfl, rfl, calm one member⟩

namespace Slots

variable [DecidableEq F]

theorem fill_comm (slots : Slots Value) {field other : F} (different : field ≠ other)
    (value : Value field) (second : Value other) :
    (slots.fill field value).fill other second = (slots.fill other second).fill field value := by
  funext asked
  by_cases first : field = asked
  · subst first
    rw [fill_other _ _ different.symm, fill_self, fill_self]
  · rw [fill_other _ value first]
    by_cases last : other = asked
    · subst last
      rw [fill_self, fill_self]
    · rw [fill_other _ _ last, fill_other _ _ last, fill_other _ _ first]

theorem isSome_fill (slots : Slots Value) (field : F) (value : Value field) (asked : F) :
    (slots.fill field value asked).isSome = (decide (field = asked) || (slots asked).isSome) := by
  by_cases same : field = asked
  · subst same
    simp [fill_self]
  · simp [fill_other _ _ same, same]

end Slots

namespace Shape

section

variable (shape : Shape F Value)

def readGiven [DecidableEq F] : Given Value → Slots Value → Reading (Slots Value)
  | [], slots => pure slots
  | ⟨field, read⟩ :: rest, slots =>
    if (slots field).isSome then Reading.mismatch (.duplicateField (shape.name field))
    else do
      let value ← read
      readGiven rest (slots.fill field value)

def given {ν : Type} (readField : (field : F) → ν → Reading (Value field))
    (held : String → Json → ν) (fields : List (String × Json)) : Given Value :=
  fields.filterMap fun entry => (shape.find? (.text entry.1)).map fun field =>
    ⟨field, readField field (held entry.1 entry.2)⟩

def knows (key : String) : Bool := (shape.find? (.text key)).isSome

end

variable {shape : Shape F Value}

section

variable [DecidableEq F]

theorem readGiven_cons_ok {one : Σ field, Reading (Value field)} {rest : Given Value}
    {slots filled : Slots Value} {files : Files} {followed : Nat}
    (ok : (shape.readGiven (one :: rest) slots files followed).result = .ok filled) :
    slots one.1 = none ∧ ∃ value, (one.2 files followed).result = .ok value ∧
      (shape.readGiven rest (slots.fill one.1 value) files
        (one.2 files followed).followed).result = .ok filled := by
  obtain ⟨field, read⟩ := one
  rw [readGiven] at ok
  cases free : slots field with
  | some value =>
    simp only [free, Option.isSome_some, if_true] at ok
    exact absurd ok (Reading.fails_mismatch _ _ _ _)
  | none =>
    simp only [free, Option.isSome_none, Bool.false_eq_true, if_false] at ok
    obtain ⟨value, okField, okRest, -⟩ := Reading.bind_ok ok
    exact ⟨rfl, value, okField, okRest⟩

theorem readGiven_pair {first second : Σ field, Reading (Value field)} (rest : Given Value)
    {slots : Slots Value} (freeFirst : slots first.1 = none) (freeSecond : slots second.1 = none)
    (different : first.1 ≠ second.1) :
    shape.readGiven (first :: second :: rest) slots =
      first.2 >>= fun found => second.2 >>= fun other =>
        shape.readGiven rest ((slots.fill first.1 found).fill second.1 other) := by
  have still : ∀ found : Value first.1, slots.fill first.1 found second.1 = none := by
    intro found
    rw [Slots.fill_other _ _ different, freeSecond]
  obtain ⟨field, read⟩ := first
  obtain ⟨behind, readBehind⟩ := second
  simp only [readGiven, freeFirst, still, Option.isSome_none, Bool.false_eq_true, if_false]

/-- What is read has no field twice, and none that was there before. -/
theorem distinct_of_readGiven {given : Given Value} {slots filled : Slots Value} {files : Files}
    {followed : Nat} (ok : (shape.readGiven given slots files followed).result = .ok filled) :
    (given.map (·.1)).Nodup ∧ ∀ one ∈ given, slots one.1 = none := by
  induction given generalizing slots followed with
  | nil => exact ⟨List.nodup_nil, nofun⟩
  | cons one rest ih =>
    obtain ⟨free, value, -, okRest⟩ := readGiven_cons_ok ok
    obtain ⟨distinct, freeRest⟩ := ih okRest
    -- A slot that is free once this field is filled is that of another field.
    have others : ∀ other ∈ rest, one.1 ≠ other.1 ∧ slots other.1 = none := by
      intro other member
      have still := congrArg Option.isSome (freeRest other member)
      rw [Slots.isSome_fill] at still
      simpa using still
    refine ⟨List.nodup_cons.2 ⟨fun member => ?_, distinct⟩, fun other member => ?_⟩
    · obtain ⟨other, inRest, same⟩ := List.mem_map.1 member
      exact (others other inRest).1 same.symm
    · rcases List.mem_cons.1 member with rfl | inRest
      · exact free
      · exact (others other inRest).2

theorem follows_readGiven {loud : Option F} {given others : Given Value}
    (follows : given.Follows loud others) (slots : Slots Value) :
    Leads (loud = none) Eq (shape.readGiven given slots) (shape.readGiven others slots) := by
  induction follows generalizing slots with
  | nil => exact .pure rfl
  | cons first _ ih =>
    obtain ⟨field, read, second, rfl, rfl, leads⟩ := first
    rw [readGiven, readGiven]
    split
    · exact .of_fails (Reading.fails_mismatch _)
    · refine (leads.mono ?_ fun _ _ same => same).bind ?_
      · rintro rfl
        exact nofun
      · rintro value _ rfl
        exact ih _

/-- Two fields change places if one of them only returns its value. -/
theorem swap_readGiven {loud : Option F} (first second : Σ field, Reading (Value field))
    (rest : Given Value) (calm : Given.Calm loud [first, second]) (slots : Slots Value) :
    Leads False Eq (shape.readGiven (first :: second :: rest) slots)
      (shape.readGiven (second :: first :: rest) slots) := by
  intro files followed filled ok
  obtain ⟨distinct, free⟩ := distinct_of_readGiven ok
  obtain ⟨freeFirst, value, okFirst, okRest⟩ := readGiven_cons_ok ok
  obtain ⟨-, other, okSecond, -⟩ := readGiven_cons_ok okRest
  have different : first.1 ≠ second.1 := fun same => by simp [same] at distinct
  have freeSecond : slots second.1 = none := free second (by simp)
  -- Not both of them are the loud field, and the other one can be read at any time.
  have same : shape.readGiven (second :: first :: rest) slots =
      shape.readGiven (first :: second :: rest) slots := by
    rw [readGiven_pair rest freeSecond freeFirst different.symm,
      readGiven_pair rest freeFirst freeSecond different]
    simp only [Slots.fill_comm slots different]
    by_cases loudFirst : loud = some first.1
    · have quiet : loud ≠ some second.1 := fun loudSecond =>
        different (Option.some.inj (loudFirst.symm.trans loudSecond))
      obtain ⟨_, -, -, silent⟩ := calm second (by simp) _ _ _ okSecond
      rw [(silent quiet).1]
      simp only [pure_bind]
    · obtain ⟨_, -, -, silent⟩ := calm first (by simp) _ _ _ okFirst
      rw [(silent loudFirst).1]
      simp only [pure_bind]
  exact ⟨filled, rfl, by rw [same, ← ok], False.elim⟩

theorem perm_readGiven {loud : Option F} {given moved : Given Value} (permuted : given.Perm moved)
    (calm : given.Calm loud) (slots : Slots Value) :
    Leads False Eq (shape.readGiven given slots) (shape.readGiven moved slots) := by
  induction permuted generalizing slots with
  | nil => exact .refl _
  | cons one _ ih =>
    obtain ⟨field, read⟩ := one
    rw [readGiven, readGiven]
    split
    · exact .refl _
    · refine Leads.bind (.refl read) ?_
      rintro value _ rfl
      exact ih (fun other member => calm other (List.mem_cons_of_mem _ member)) _
  | swap first second rest =>
    have pair : Given.Calm loud [second, first] := fun one member =>
      calm one (List.mem_append_left rest member)
    exact swap_readGiven second first rest pair slots
  | trans before _ ihFirst ihSecond =>
    exact (ihFirst calm slots).trans
      (ihSecond (fun one member => calm one (before.symm.subset member)) slots)

end

variable {ν μ : Type} {readField : (field : F) → ν → Reading (Value field)}
  {otherField : (field : F) → μ → Reading (Value field)}

theorem given_filter (held : String → Json → ν) (fields : List (String × Json)) :
    shape.given readField held (fields.filter fun entry => shape.knows entry.1) =
      shape.given readField held fields := by
  induction fields with
  | nil => rfl
  | cons entry rest ih =>
    cases found : shape.find? (.text entry.1) with
    | none => simpa [given, knows, found] using ih
    | some field => simpa [given, knows, found] using ih

/-- Known keys that stand for different fields are different. -/
theorem nodup_keys {held : String → Json → ν} {fields : List (String × Json)}
    (known : ∀ entry ∈ fields, shape.knows entry.1)
    (distinct : ((shape.given readField held fields).map (·.1)).Nodup) :
    (fields.map (·.1)).Nodup := by
  have found : (shape.given readField held fields).map (fun one => some one.1) =
      fields.map fun entry => shape.find? (.text entry.1) := by
    induction fields with
    | nil => rfl
    | cons entry rest ih =>
      obtain ⟨field, same⟩ := Option.isSome_iff_exists.1 (known entry List.mem_cons_self)
      have later := ih (fun other member => known other (List.mem_cons_of_mem _ member))
      simp only [given, List.filterMap_cons, same, Option.map_some, List.map_cons] at later ⊢ distinct
      exact congrArg _ (later (List.nodup_cons.1 distinct).2)
  have someDistinct := distinct.map (Option.some_injective F)
  rw [List.map_map] at someDistinct
  change ((shape.given readField held fields).map fun one => some one.1).Nodup at someDistinct
  rw [found, ← Function.comp_def (fun key => shape.find? (.text key)), ← List.map_map] at someDistinct
  exact someDistinct.of_map

section

variable {Shows : ν → Json → Prop} {Shown : μ → Json → Prop} {loud : Option F}

/-- Tidied fields in the same order are given alike. -/
theorem follows_given
    (agree : ∀ field, Agree Shows Shown (loud ≠ some field) (readField field) (otherField field))
    {held : String → Json → ν} {holds : String → Json → μ} {fields others : List (String × Json)}
    (shown : ∀ entry ∈ fields, Shows (held entry.1 entry.2) entry.2)
    (shownTidy : ∀ entry ∈ others, Shown (holds entry.1 entry.2) entry.2)
    (tidied : Json.TidiedFields fields others) :
    (shape.given readField held fields).Follows loud (shape.given otherField holds others) := by
  induction tidied with
  | nil => exact .nil
  | @cons entry other fields others alike _ ih =>
    obtain ⟨key, value⟩ := entry
    obtain ⟨_, tidy⟩ := other
    obtain ⟨rfl, tidiedValue⟩ := alike
    have rest := ih (fun entry member => shown entry (List.mem_cons_of_mem _ member))
      (fun entry member => shownTidy entry (List.mem_cons_of_mem _ member))
    cases found : shape.find? (.text key) with
    | none => simpa [given, found] using rest
    | some field =>
      simp only [given, List.filterMap_cons, found, Option.map_some]
      refine .cons ⟨field, _, _, rfl, rfl, agree field ?_⟩ rest
      exact ⟨value, tidy, shown _ List.mem_cons_self, shownTidy _ List.mem_cons_self, tidiedValue⟩

theorem readGiven_tidied [DecidableEq F]
    (agree : ∀ field, Agree Shows Shown (loud ≠ some field) (readField field) (otherField field))
    {held : String → Json → ν} {holds : String → Json → μ} {fields others : List (String × Json)}
    (shown : ∀ entry ∈ fields, Shows (held entry.1 entry.2) entry.2)
    (shownTidy : ∀ entry ∈ others, Shown (holds entry.1 entry.2) entry.2)
    (tidied : (Json.obj fields).Tidied (.obj others)) (slots : Slots Value) :
    Leads (loud = none) Eq (shape.readGiven (shape.given readField held fields) slots)
      (shape.readGiven (shape.given otherField holds others) slots) := by
  intro files followed filled ok
  have distinct := (distinct_of_readGiven ok).1
  rw [← given_filter held fields] at distinct
  have known : ∀ entry ∈ fields.filter fun entry => shape.knows entry.1, shape.knows entry.1 :=
    fun entry member => (List.mem_filter.1 member).2
  -- As no known field is repeated, those of the other side are the same ones in another order.
  obtain ⟨moved, permuted, pointwise⟩ :=
    (tidied.filter shape.knows).rearranged (nodup_keys known distinct)
  have shownMoved : ∀ entry ∈ moved, Shows (held entry.1 entry.2) entry.2 := fun entry member =>
    shown entry (List.mem_of_mem_filter (permuted.symm.subset member))
  have follows : (shape.given readField held moved).Follows loud
      (shape.given otherField holds (others.filter fun entry => shape.knows entry.1)) :=
    follows_given agree shownMoved
      (fun entry member => shownTidy entry (List.mem_of_mem_filter member)) pointwise
  have rearranged : (shape.given readField held fields).Perm (shape.given readField held moved) := by
    rw [← given_filter held fields]
    exact permuted.filterMap _
  have calm : (shape.given readField held fields).Calm loud := fun one member =>
    follows.calm one (rearranged.subset member)
  rw [given_filter holds others] at follows
  -- By way of the fields of the first side in the order of the second.
  exact (follows_readGiven calm.follows slots).detour (perm_readGiven rearranged calm slots)
    (follows_readGiven follows slots) _ _ _ ok

theorem readItems_alike [DecidableEq F]
    (agree : ∀ field, Agree Shows Shown (loud ≠ some field) (readField field) (otherField field))
    {elements : List ν} {others : List μ}
    (alike : List.Forall₂ (Alike Shows Shown) elements others) (fields : List F) (index : Nat)
    (slots : Slots Value) :
    Leads (loud = none) Eq (shape.readItems readField (pure ()) index fields elements slots)
      (shape.readItems otherField (pure ()) index fields others slots) := by
  induction fields generalizing elements others index slots with
  | nil =>
    rw [readItems, readItems]
    exact .pure rfl
  | cons field fields ih =>
    cases alike with
    | nil =>
      rw [readItems, readItems, pure_bind, pure_bind]
      cases shape.absent field with
      | none => exact .of_fails (Reading.fails_mismatch _)
      | some value => exact ih .nil _ _
    | cons first rest =>
      rw [readItems, readItems]
      refine ((agree field first).mono ?_ fun _ _ same => same).bind ?_
      · rintro rfl
        exact nofun
      · rintro value _ rfl
        exact ih rest _ _

theorem quiet_close (slots : Slots Value) {quiet : Prop} :
    Leads quiet Eq (match shape.close slots with
      | .ok values => pure values
      | .error cause => Reading.mismatch cause)
    (match shape.close slots with
      | .ok values => pure values
      | .error cause => Reading.mismatch cause) := by
  cases shape.close slots with
  | error cause => exact .of_fails (Reading.fails_mismatch _)
  | ok values => exact .pure rfl

end

variable [DecidableEq F] [Source ν] [Source μ]

/-- Fields that are not known are passed over. -/
theorem readPairs_eq_readGiven {key : String → ν} (held : String → Json → ν)
    (spells : ∀ text, Spells (key text) text) (fields : List (String × Json))
    (skips : ∀ entry ∈ fields, Source.skip (held entry.1 entry.2) = pure ()) (slots : Slots Value) :
    shape.readPairs readField (fields.map fun entry => (key entry.1, held entry.1 entry.2)) slots =
      shape.readGiven (shape.given readField held fields) slots := by
  induction fields generalizing slots with
  | nil => rfl
  | cons entry rest ih =>
    have later := ih fun other member => skips other (List.mem_cons_of_mem _ member)
    rw [List.map_cons, readPairs, (spells entry.1).name, pure_bind]
    cases found : shape.find? (.text entry.1) with
    | none =>
      have passed : shape.given readField held (entry :: rest) = shape.given readField held rest := by
        simp [given, found]
      simp only [skips entry List.mem_cons_self, pure_bind, later, passed]
    | some field =>
      have next : shape.given readField held (entry :: rest) =
          ⟨field, readField field (held entry.1 entry.2)⟩ :: shape.given readField held rest := by
        simp [given, found]
      simp only [next, readGiven, later]

variable {Shows Top : ν → Json → Prop} {Shown : μ → Json → Prop} {loud : Option F}

/-- Records are read alike as their fields are. -/
theorem agree (compares : Compares Shows Top Shown)
    (agree : ∀ field, Agree Shows Shown (loud ≠ some field) (readField field) (otherField field)) :
    Agree Top Shown (loud = none) (shape.read readField) (shape.read otherField) := by
  rintro first second ⟨json, tidy, top, shownTidy, tidied⟩
  have shown := compares.narrow top
  obtain ⟨change, placed⟩ := compares.faithful.place shown
  obtain ⟨report, reported⟩ := compares.showing.place shownTidy
  rw [read, read, placed, reported]
  refine Leads.onFault ?_ change report
  cases json with
  | obj fields =>
    obtain ⟨others, rfl⟩ := tidied.eq_obj
    obtain ⟨key, held, asked, spells, inside⟩ := compares.faithful.entries shown
    obtain ⟨keyTidy, holds, askedTidy, spellsTidy, insideTidy⟩ := compares.showing.entries shownTidy
    rw [compares.faithful.record shown, compares.showing.record shownTidy, asked, askedTidy, map_pure,
      map_pure, pure_bind, pure_bind, readParts, readParts,
      readPairs_eq_readGiven held spells fields fun entry member =>
        compares.faithful.skip (inside entry member),
      readPairs_eq_readGiven holds spellsTidy others fun entry member =>
        compares.showing.skip (insideTidy entry member)]
    refine (readGiven_tidied agree inside insideTidy tidied _).bind ?_
    rintro slots _ rfl
    exact quiet_close slots
  | arr items =>
    obtain ⟨others, rfl, pointwise⟩ := tidied.eq_arr
    obtain ⟨listed, asked, lists⟩ := compares.faithful.record_list shown
    obtain ⟨listedTidy, askedTidy, listsTidy⟩ := (compares.lists top).record_list shownTidy
    rw [asked, askedTidy, pure_bind, pure_bind, readParts, readParts, lists.past, listsTidy.past]
    have alike := Agree.alike_elements lists.elements listsTidy.elements pointwise
    refine (readItems_alike agree alike _ _ _).bind ?_
    rintro slots _ rfl
    by_cases all : items.length ≤ shape.fields.length
    · rw [lists.whole all, listsTidy.whole (pointwise.length_eq ▸ all), pure_bind]
      exact quiet_close slots
    · exact .of_fails ((lists.early (Nat.lt_of_not_le all)).bind _)
  | _ => exact .of_fails (Fails.bind (compares.faithful.refuses shown (.record _) rfl) _)

/-- If all fields only return their values, the whole record does. -/
theorem agree_quietly (compares : Compares Shows Top Shown)
    (agree : ∀ field, Agree Shows Shown True (readField field) (otherField field)) :
    Agree Top Shown True (shape.read readField) (shape.read otherField) := by
  have quietly : Agree Top Shown ((none : Option F) = none) (shape.read readField)
      (shape.read otherField) := Shape.agree compares fun field => (agree field).louder
  exact quietly.mono fun _ => rfl

end Shape

end KvTables
