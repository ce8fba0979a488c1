import KvTables.Proofs.Json.Repeats
import KvTables.Proofs.Reading.Faithful

/-! Readings that agree on values showing the same.

The first value shows a tree faithfully, the second shows the same tree tidied, perhaps in another
notation. What is read from the first is then read from the second. The statements compose as the
readings do.
-/

set_option autoImplicit false

namespace KvTables

open Reading (Leads Fails)

namespace Json.Tidied

theorem ne_null {json tidy : Json} (tidied : json.Tidied tidy) (given : json ≠ .null) :
    tidy ≠ .null := by
  rintro rfl
  have same := tidied.same
  cases json <;> simp_all [canonical]

theorem single {key : String} {value tidy : Json} (tidied : (Json.obj [(key, value)]).Tidied tidy) :
    ∃ other, tidy = .obj [(key, other)] ∧ value.Tidied other := by
  obtain ⟨others, rfl⟩ := tidied.eq_obj
  obtain ⟨moved, permuted, pointwise⟩ := tidied.rearranged (List.nodup_singleton key)
  obtain rfl : moved = [(key, value)] := List.perm_singleton.1 permuted.symm
  cases pointwise with
  | cons alike rest =>
    cases rest
    obtain ⟨rfl, inner⟩ := alike
    exact ⟨_, rfl, inner⟩

end Json.Tidied

variable {α ν μ : Type}

/-- The second value shows the tree of the first, tidied. -/
def Alike (Shows : ν → Json → Prop) (Shown : μ → Json → Prop) (first : ν) (second : μ) : Prop :=
  ∃ json tidy, Shows first json ∧ Shown second tidy ∧ json.Tidied tidy

def Agree (Shows : ν → Json → Prop) (Shown : μ → Json → Prop) (quiet : Prop)
    (read : ν → Reading α) (other : μ → Reading α) : Prop :=
  ∀ ⦃first : ν⦄ ⦃second : μ⦄, Alike Shows Shown first second →
    Leads quiet Eq (read first) (other second)

variable {Shows : ν → Json → Prop} {Shown : μ → Json → Prop} {quiet : Prop}

namespace Agree

theorem louder {read : ν → Reading α} {other : μ → Reading α}
    (agree : Agree Shows Shown True read other) : Agree Shows Shown quiet read other :=
  fun _ _ alike => (agree alike).louder

theorem mono {loud : Prop} {read : ν → Reading α} {other : μ → Reading α}
    (agree : Agree Shows Shown quiet read other) (louder : loud → quiet) :
    Agree Shows Shown loud read other :=
  fun _ _ alike => (agree alike).mono louder fun _ _ same => same

theorem map {β : Type} {read : ν → Reading α} {other : μ → Reading α}
    (agree : Agree Shows Shown quiet read other) (f : α → β) :
    Agree Shows Shown quiet (fun value => do return f (← read value))
      (fun value => do return f (← other value)) :=
  fun _ _ alike => (agree alike).bind fun _ _ same => .pure (congrArg f same)

/-- Elements that show trees and elements that show these tidied are alike one by one. -/
theorem alike_elements {elements : List ν} {others : List μ} {items tidy : List Json}
    (shown : List.Forall₂ Shows elements items) (shownTidy : List.Forall₂ Shown others tidy)
    (tidied : List.Forall₂ Json.Tidied items tidy) :
    List.Forall₂ (Alike Shows Shown) elements others := by
  induction tidied generalizing elements others with
  | nil =>
    cases shown
    cases shownTidy
    exact .nil
  | cons first rest ih =>
    cases shown with
    | cons shownFirst shownRest =>
      cases shownTidy with
      | cons shownTidyFirst shownTidyRest =>
        exact .cons ⟨_, _, shownFirst, shownTidyFirst, first⟩ (ih shownRest shownTidyRest)

theorem each {read : ν → Reading α} {other : μ → Reading α}
    (agree : Agree Shows Shown quiet read other) {elements : List ν} {others : List μ}
    (alike : List.Forall₂ (Alike Shows Shown) elements others) :
    Leads quiet Eq (Reading.each read elements) (Reading.each other others) := by
  induction alike with
  | nil => exact .pure rfl
  | cons first _ ih =>
    rw [Reading.each, Reading.each]
    refine (agree first).bind ?_
    rintro value _ rfl
    exact ih.bind fun _ _ rest => .pure (congrArg _ rest)

theorem quiet_pick {variants : List (String × α)} (name : Name) :
    Leads True Eq (Reading.pick variants name) (Reading.pick variants name) := by
  cases name with
  | text text =>
    cases found : variants.lookup text with
    | none =>
      simp only [Reading.pick, found]
      exact .of_fails (Reading.fails_mismatch _)
    | some variant =>
      simp only [Reading.pick, found]
      exact .pure rfl
  | index index =>
    cases found : variants[index]? with
    | none =>
      simp only [Reading.pick, found]
      exact .of_fails (Reading.fails_mismatch _)
    | some variant =>
      simp only [Reading.pick, found]
      exact .pure rfl

theorem pick_lookup {variants : List (String × (ν → Reading α))}
    {others : List (String × (μ → Reading α))}
    (alike : List.Forall₂ (fun variant other =>
      variant.1 = other.1 ∧ Agree Shows Shown quiet variant.2 other.2) variants others)
    (text : String) :
    Leads True (Agree Shows Shown quiet) (Reading.pick variants (.text text))
      (Reading.pick others (.text text)) := by
  have found : ∀ read, variants.lookup text = some read →
      ∃ reads, others.lookup text = some reads ∧ Agree Shows Shown quiet read reads := by
    induction alike with
    | nil => intro read found; cases found
    | @cons variant other _ _ first rest ih =>
      obtain ⟨name, read⟩ := variant
      obtain ⟨name', reads⟩ := other
      obtain ⟨rfl, agree⟩ : name = name' ∧ Agree Shows Shown quiet read reads := first
      intro found looked
      rw [List.lookup_cons] at looked ⊢
      by_cases same : text == name
      · simp only [same] at looked ⊢
        obtain rfl := Option.some.inj looked
        exact ⟨reads, rfl, agree⟩
      · simp only [same] at looked ⊢
        exact ih found looked
  cases looked : variants.lookup text with
  | none =>
    simp only [Reading.pick, looked]
    exact .of_fails (Reading.fails_mismatch _)
  | some read =>
    obtain ⟨reads, lookedOther, agree⟩ := found read looked
    simp only [Reading.pick, looked, lookedOther]
    exact .pure agree

end Agree

variable [Source ν] [Source μ]

theorem Showing.place_pure (showing : Showing Shows) {value : ν} {json : Json}
    (shown : Shows value json) (result : α) :
    Source.place value (pure result : Reading α) = pure result := by
  obtain ⟨change, placed⟩ := showing.place shown
  rw [placed]
  rfl

theorem Showing.pairs (showing : Showing Shows) {key : String → ν} {held : String → Json → ν}
    (spells : ∀ text, Spells (key text) text) (fields : List (String × Json))
    (shown : ∀ field ∈ fields, Shows (held field.1 field.2) field.2) :
    Reading.pairs (fields.map fun field => (key field.1, held field.1 field.2)) = pure fields := by
  induction fields with
  | nil => rfl
  | cons field rest ih =>
    rw [List.map_cons, Reading.pairs, (spells _).text, pure_bind,
      showing.json (shown field List.mem_cons_self), pure_bind,
      ih fun other member => shown other (List.mem_cons_of_mem _ member), pure_bind]

/-- A mapping without a known form is the object it shows. -/
theorem Showing.object (showing : Showing Shows) {value : ν} {fields : List (String × Json)}
    (shown : Shows value (.obj fields)) : Reading.object value = pure (.ofFields fields) := by
  obtain ⟨key, held, asked, spells, inside⟩ := showing.entries shown
  rw [Reading.object, asked, pure_bind, showing.pairs spells fields inside]
  exact showing.place_pure shown _

theorem Faithful.object_fails (faithful : Faithful Shows) {value : ν} {json : Json}
    (shown : Shows value json) (other : ∀ fields, json ≠ .obj fields) :
    Fails (Reading.object value) := by
  obtain ⟨change, placed⟩ := faithful.place shown
  rw [Reading.object, placed]
  refine Fails.onFault (Fails.bind ?_ _) change
  cases json with
  | obj fields => exact absurd rfl (other fields)
  | _ => exact faithful.refuses shown (.entries "a map") rfl

namespace Agree

section

variable (faithful : Faithful Shows) (showing : Showing Shown)

include faithful showing

theorem text (expected : String) :
    Agree Shows Shown True (Source.text expected) (Source.text expected) := by
  rintro first second ⟨json, tidy, shown, shownTidy, tidied⟩
  cases json with
  | str content =>
    obtain rfl := tidied.eq_str
    rw [faithful.text shown, showing.text shownTidy]
    exact .pure rfl
  | _ => exact .of_fails (faithful.refuses shown (.text expected) rfl)

theorem flag : Agree Shows Shown True Source.flag Source.flag := by
  rintro first second ⟨json, tidy, shown, shownTidy, tidied⟩
  cases json with
  | bool value =>
    obtain rfl := tidied.eq_bool
    rw [faithful.flag shown, showing.flag shownTidy]
    exact .pure rfl
  | _ => exact .of_fails (faithful.refuses shown .flag rfl)

theorem count : Agree Shows Shown True Source.count Source.count := by
  rintro first second ⟨json, tidy, shown, shownTidy, tidied⟩
  cases json with
  | num number =>
    obtain rfl := tidied.eq_num
    rw [faithful.count_eq shown]
    exact showing.count shownTidy
  | _ => exact .of_fails (faithful.refuses shown .count rfl)

/-- A tree without a known form is the same up to its canonical form. -/
theorem value : Agree Shows Shown True (fun value => Json.Value.ofJson <$> Source.json value)
    (fun value => Json.Value.ofJson <$> Source.json value) := by
  rintro first second ⟨json, tidy, shown, shownTidy, tidied⟩
  simp only [faithful.json shown, showing.json shownTidy, map_pure]
  refine .pure ?_
  simp only [Json.Value.ofJson, tidied.same]

theorem object : Agree Shows Shown True Reading.object Reading.object := by
  rintro first second ⟨json, tidy, shown, shownTidy, tidied⟩
  cases json with
  | obj fields =>
    obtain ⟨others, rfl⟩ := tidied.eq_obj
    rw [faithful.object shown, showing.object shownTidy]
    exact .pure tidied.object_eq
  | _ => exact .of_fails (faithful.object_fails shown fun _ => Json.noConfusion)

theorem optional {read : ν → Reading α} {other : μ → Reading α}
    (agree : Agree Shows Shown quiet read other) :
    Agree Shows Shown quiet (Reading.optional read) (Reading.optional other) := by
  rintro first second ⟨json, tidy, shown, shownTidy, tidied⟩
  by_cases nothing : json = .null
  · subst nothing
    obtain rfl := tidied.eq_null
    rw [Reading.optional, Reading.optional, faithful.optional_null shown,
      showing.optional_null shownTidy]
    exact .pure rfl
  · rw [Reading.optional, Reading.optional, faithful.optional_some shown nothing,
      showing.optional_some shownTidy (tidied.ne_null nothing), pure_bind, pure_bind]
    exact (agree ⟨json, tidy, shown, shownTidy, tidied⟩).map fun _ _ => congrArg some

theorem list {read : ν → Reading α} {other : μ → Reading α}
    (agree : Agree Shows Shown quiet read other) :
    Agree Shows Shown quiet (Reading.list read) (Reading.list other) := by
  rintro first second ⟨json, tidy, shown, shownTidy, tidied⟩
  obtain ⟨change, placed⟩ := faithful.place shown
  obtain ⟨report, reported⟩ := showing.place shownTidy
  rw [Reading.list, Reading.list, placed, reported]
  refine Leads.onFault ?_ change report
  cases json with
  | arr items =>
    obtain ⟨others, rfl, pointwise⟩ := tidied.eq_arr
    obtain ⟨listed, asked, past, elements⟩ := faithful.items shown "a sequence"
    obtain ⟨listedTidy, askedTidy, pastTidy, elementsTidy⟩ := showing.items shownTidy "a sequence"
    simp only [asked, askedTidy, past, pastTidy, pure_bind, bind_pure]
    exact agree.each (alike_elements elements elementsTidy pointwise)
  | _ => exact .of_fails (Fails.bind (faithful.refuses shown (.items "a sequence") rfl) _)

end

section

variable (faithful : Faithful Shows) (other : Faithful Shown)

include faithful other

theorem bare (variants : List (String × α)) :
    Agree Shows Shown True (Reading.bare variants) (Reading.bare variants) := by
  rintro first second ⟨json, tidy, shown, shownTidy, tidied⟩
  by_cases isText : ∃ content, json = .str content
  · obtain ⟨content, rfl⟩ := isText
    obtain rfl := tidied.eq_str
    rw [Reading.bare, Reading.bare, faithful.choice_text shown, other.choice_text shownTidy]
    simp only [Choice.ofText, pure_bind, bind_pure]
    exact quiet_pick _
  · by_cases isField : ∃ key inner, json = .obj [(key, inner)]
    · obtain ⟨key, inner, rfl⟩ := isField
      obtain ⟨innerTidy, rfl, tidiedInner⟩ := tidied.single
      obtain ⟨choice, carries, visited⟩ := faithful.choice_field shown
      obtain ⟨choiceTidy, carriesTidy, visitedTidy⟩ := other.choice_field shownTidy
      rw [Reading.bare, Reading.bare, visited, visitedTidy]
      simp only [carries.name, carriesTidy.name, pure_bind]
      refine (quiet_pick _).bind ?_
      rintro variant _ rfl
      by_cases nothing : inner = .null
      · subst nothing
        rw [carries.bare rfl, carriesTidy.bare tidiedInner.eq_null, carries.close, carriesTidy.close]
        exact .pure rfl
      · exact .of_fails ((carries.laden nothing).bind _)
    · refine .of_fails (faithful.choice_fails shown (fun content same => isText ⟨content, same⟩)
        (fun key inner same => isField ⟨key, inner, same⟩) fun choice unclosed => ?_)
      exact Fails.of_next fun name => Fails.of_next fun variant => Fails.of_next fun _ =>
        unclosed.bind _

theorem withPayload {variants : List (String × (ν → Reading α))}
    {others : List (String × (μ → Reading α))}
    (alike : List.Forall₂ (fun variant other =>
      variant.1 = other.1 ∧ Agree Shows Shown quiet variant.2 other.2) variants others) :
    Agree Shows Shown quiet (Reading.withPayload variants) (Reading.withPayload others) := by
  rintro first second ⟨json, tidy, shown, shownTidy, tidied⟩
  by_cases isText : ∃ content, json = .str content
  · obtain ⟨content, rfl⟩ := isText
    rw [Reading.withPayload, faithful.choice_text shown]
    refine .of_fails (Fails.of_next fun name => Fails.of_next fun read => Fails.bind ?_ _)
    exact Reading.fails_mismatch _
  · by_cases isField : ∃ key inner, json = .obj [(key, inner)]
    · obtain ⟨key, inner, rfl⟩ := isField
      obtain ⟨innerTidy, rfl, tidiedInner⟩ := tidied.single
      obtain ⟨choice, carries, visited⟩ := faithful.choice_field shown
      obtain ⟨choiceTidy, carriesTidy, visitedTidy⟩ := other.choice_field shownTidy
      obtain ⟨value, payload, shownValue⟩ := carries.payload
      obtain ⟨valueTidy, payloadTidy, shownValueTidy⟩ := carriesTidy.payload
      rw [Reading.withPayload, Reading.withPayload, visited, visitedTidy]
      simp only [carries.name, carriesTidy.name, payload, payloadTidy, carries.close,
        carriesTidy.close, pure_bind, bind_pure]
      refine (pick_lookup alike key).louder.bind fun read reads agree => ?_
      exact agree ⟨inner, innerTidy, shownValue, shownValueTidy, tidiedInner⟩
    · refine .of_fails (faithful.choice_fails shown (fun content same => isText ⟨content, same⟩)
        (fun key inner same => isField ⟨key, inner, same⟩) fun choice unclosed => ?_)
      exact Fails.of_next fun name => Fails.of_next fun read => Fails.of_next fun payload =>
        Fails.of_next fun _ => unclosed.bind _

end

end Agree

end KvTables
