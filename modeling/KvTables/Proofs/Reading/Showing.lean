import KvTables.Proofs.Reading.Cursor
import KvTables.Proofs.Reading.Leads
import KvTables.Proofs.Reading.Trees
import KvTables.Reading.Variants
import Mathlib.Data.List.Forall2

/-! Values of sources that show a tree.

A value that shows a tree answers every question that the tree has an answer to, as the tree says. A
faithful one also refuses whatever the tree cannot answer. JSON text, JSON values and values kept
aside show trees faithfully as long as they nest no deeper than their source can go.
-/

set_option autoImplicit false

namespace KvTables

open Reading (Leads Fails)

namespace Json

theorem depth_le_of_mem_items {items : List Json} {item : Json} (member : item ∈ items) :
    item.depth ≤ depthItems items := by
  induction items with
  | nil => cases member
  | cons first rest ih =>
    rw [depthItems]
    rcases List.mem_cons.1 member with rfl | behind
    · exact Nat.le_max_left _ _
    · exact Nat.le_trans (ih behind) (Nat.le_max_right _ _)

theorem depth_le_of_mem_fields {fields : List (String × Json)} {field : String × Json}
    (member : field ∈ fields) : field.2.depth ≤ depthFields fields := by
  induction fields with
  | nil => cases member
  | cons first rest ih =>
    obtain ⟨key, value⟩ := first
    rw [depthFields]
    rcases List.mem_cons.1 member with rfl | behind
    · exact Nat.le_max_left _ _
    · exact Nat.le_trans (ih behind) (Nat.le_max_right _ _)

end Json

variable {ν : Type} [Source ν]

structure Spells (key : ν) (content : String) : Prop where
  name (expected : String) : Source.name expected key = pure (.text content)
  text (expected : String) : Source.text expected key = pure content
  buffer (expected : String) : Source.buffer expected key = pure (Buffer.text content)

/-- Values that answer what the tree they show has an answer to. -/
structure Showing (Shows : ν → Json → Prop) : Prop where
  place {value : ν} {json : Json} (shown : Shows value json) : ∃ change,
    ∀ {α : Type} (reading : Reading α), Source.place value reading = reading.onFault change
  text {value : ν} {content : String} (shown : Shows value (.str content)) (expected : String) :
    Source.text expected value = pure content
  name {value : ν} {content : String} (shown : Shows value (.str content)) (expected : String) :
    Source.name expected value = pure (.text content)
  flag {value : ν} {flag : Bool} (shown : Shows value (.bool flag)) :
    Source.flag value = pure flag
  count {value : ν} {number : Json.Number} (shown : Shows value (.num number)) :
    number.count.Leads True Eq (Source.count value)
  optional_null {value : ν} (shown : Shows value .null) : Source.optional value = pure none
  optional_some {value : ν} {json : Json} (shown : Shows value json) (given : json ≠ .null) :
    Source.optional value = pure (some value)
  items {value : ν} {items : List Json} (shown : Shows value (.arr items)) (expected : String) :
    ∃ listed : Items ν, Source.items expected value = pure listed ∧ listed.past = pure () ∧
      List.Forall₂ Shows listed.elements items
  entries {value : ν} {fields : List (String × Json)} (shown : Shows value (.obj fields)) :
    ∃ (key : String → ν) (held : String → Json → ν),
      (∀ expected, Source.entries expected value =
        pure ⟨fields.map fun field => (key field.1, held field.1 field.2), pure ()⟩) ∧
      (∀ text, Spells (key text) text) ∧ ∀ field ∈ fields, Shows (held field.1 field.2) field.2
  record {value : ν} {fields : List (String × Json)} (shown : Shows value (.obj fields))
    (expected : String) :
    Source.record expected value = Parts.entries <$> Source.entries expected value
  tagged {value : ν} {fields : List (String × Json)} (shown : Shows value (.obj fields))
    (expected : String) :
    Source.tagged expected value = Parts.entries <$> Source.entries expected value
  skip {value : ν} {json : Json} (shown : Shows value json) : Source.skip value = pure ()
  json {value : ν} {json : Json} (shown : Shows value json) : Source.json value = pure json
  buffer {value : ν} {json : Json} (shown : Shows value json) (expected : String) :
    Source.buffer expected value = pure (Buffer.ofJson json)

/-- What can be asked of a value and not of every other. -/
inductive Question where
  | text (expected : String)
  | name (expected : String)
  | flag
  | count
  | items (expected : String)
  | entries (expected : String)
  | record (expected : String)
  | tagged (expected : String)

namespace Question

def Answer (ν : Type) : Question → Type
  | .text _ => String
  | .name _ => Name
  | .flag => Bool
  | .count => UInt64
  | .items _ => Items ν
  | .entries _ => Entries ν
  | .record _ | .tagged _ => Parts ν

def ask : (question : Question) → ν → Reading (question.Answer ν)
  | .text expected => Source.text expected
  | .name expected => Source.name expected
  | .flag => Source.flag
  | .count => Source.count
  | .items expected => Source.items expected
  | .entries expected => Source.entries expected
  | .record expected => Source.record expected
  | .tagged expected => Source.tagged expected

/-- The trees that have an answer. Some sources take a number for the position of a name. -/
def fits : Question → Json → Bool
  | .text _, .str _ => true
  | .name _, .str _ | .name _, .num _ => true
  | .flag, .bool _ => true
  | .count, .num _ => true
  | .items _, .arr _ => true
  | .entries _, .obj _ => true
  | .record _, .arr _ | .record _, .obj _ => true
  | .tagged _, .arr _ | .tagged _, .obj _ => true
  | _, _ => false

end Question

/-- The elements of a list, which have to be taken all. -/
structure Lists (Shows : ν → Json → Prop) (listed : Items ν) (items : List Json) : Prop where
  past : listed.past = pure ()
  elements : List.Forall₂ Shows listed.elements items
  whole {taken : Nat} (all : items.length ≤ taken) : listed.surplus taken = pure ()
  early {taken : Nat} (some : taken < items.length) : Fails (listed.surplus taken)

structure Carries (Shows : ν → Json → Prop) (choice : Choice ν) (key : String) (inner : Json) :
    Prop where
  name : choice.name = pure (.text key)
  payload : ∃ value, choice.payload = pure value ∧ Shows value inner
  bare (nothing : inner = .null) : choice.bare = pure ()
  laden (something : inner ≠ .null) : Fails choice.bare
  close : choice.close = pure ()

/-- Values that answer as the tree they show and refuse what it has no answer to. They may write
records as lists, and variants as objects of a single field. -/
structure Faithful (Shows : ν → Json → Prop) : Prop extends Showing Shows where
  count_eq {value : ν} {number : Json.Number} (shown : Shows value (.num number)) :
    Source.count value = number.count
  record_list {value : ν} {items : List Json} (shown : Shows value (.arr items)) :
    ∃ listed, (∀ expected, Source.record expected value = pure (.items listed)) ∧
      Lists Shows listed items
  tagged_list {value : ν} {items : List Json} (shown : Shows value (.arr items)) :
    ∃ listed, (∀ expected, Source.tagged expected value = pure (.items listed)) ∧
      Lists Shows listed items
  choice_text {value : ν} {content : String} (shown : Shows value (.str content)) {α : Type}
    (visit : Choice ν → Reading α) :
    Source.choice value visit = visit (Choice.ofText (pure (.text content)))
  choice_field {value : ν} {key : String} {inner : Json} (shown : Shows value (.obj [(key, inner)])) :
    ∃ choice, Carries Shows choice key inner ∧
      ∀ {α : Type} (visit : Choice ν → Reading α), Source.choice value visit = visit choice
  refuses {value : ν} {json : Json} (shown : Shows value json) (question : Question)
    (unfit : question.fits json = false) : Fails (question.ask value)
  choice_fails {value : ν} {json : Json} (shown : Shows value json)
    (other : ∀ content, json ≠ .str content) (others : ∀ key inner, json ≠ .obj [(key, inner)])
    {α : Type} {visit : Choice ν → Reading α}
    (closes : ∀ choice, Fails choice.close → Fails (visit choice)) :
    Fails (Source.choice value visit)

namespace Reading

theorem onFault_id {α : Type} (reading : Reading α) : reading.onFault id = reading := by
  funext files followed
  cases same : (reading files followed).result with
  | error fault => rw [onFault, same, Except.mapError, id, ← same]
  | ok value => rw [onFault, same, Except.mapError, ← same]

theorem quiet_count (number : Json.Number) : Leads True Eq number.count number.count := by
  cases number with
  | float value => exact .of_fails (fails_mismatch _)
  | int value fits =>
    rw [Json.Number.count]
    split
    · exact .of_fails (fails_mismatch _)
    · exact .pure rfl

end Reading

namespace Rendering

variable (rendering : Rendering ν)

/-- A value inside so many containers that its tree does not go too deep. -/
def Shows (value : ν) (json : Json) : Prop :=
  ∃ level, value = rendering.render level json ∧
    Reading.allows rendering.deepest (level + json.depth)

variable {rendering}

theorem items_of_allows {level : Nat} {items : List Json}
    (allowed : Reading.allows rendering.deepest (level + (Json.arr items).depth)) :
    Reading.allows rendering.deepest (level + 1) ∧
      List.Forall₂ rendering.Shows (items.map (rendering.render (level + 1))) items := by
  rw [Json.add_depth_arr] at allowed
  refine ⟨Reading.allows_mono (Nat.le_add_right _ _) allowed, ?_⟩
  rw [List.forall₂_map_left_iff, List.forall₂_same]
  intro item member
  have below := Json.depth_le_of_mem_items member
  exact ⟨level + 1, rfl, Reading.allows_mono (by omega) allowed⟩

theorem shows_of_mem {level : Nat} {fields : List (String × Json)}
    (allowed : Reading.allows rendering.deepest (level + (Json.obj fields).depth))
    {field : String × Json} (member : field ∈ fields) :
    rendering.Shows (rendering.render (level + 1) field.2) field.2 := by
  rw [Json.add_depth_obj] at allowed
  have below := Json.depth_le_of_mem_fields member
  exact ⟨level + 1, rfl, Reading.allows_mono (by omega) allowed⟩

theorem spells {level : Nat} (allowed : Reading.allows rendering.deepest level) (text : String) :
    Spells (rendering.render level (.str text)) text where
  name expected := rendering.name level text expected
  text expected := rendering.text level text expected
  buffer expected := by
    rw [rendering.buffer level _ expected allowed]
    exact Reading.upTo_of_allows allowed _

theorem entries_of_allows {level : Nat} {fields : List (String × Json)}
    (allowed : Reading.allows rendering.deepest (level + (Json.obj fields).depth)) :
    Reading.allows rendering.deepest (level + 1) := by
  rw [Json.add_depth_obj] at allowed
  exact Reading.allows_mono (Nat.le_add_right _ _) allowed

theorem showing (skips : ∀ level json, Source.skip (rendering.render level json) = pure ()) :
    Showing rendering.Shows where
  place := by
    rintro _ json ⟨level, rfl, -⟩
    exact ⟨id, fun reading => by rw [rendering.place, Reading.onFault_id]⟩
  text := by
    rintro _ content ⟨level, rfl, -⟩ expected
    exact rendering.text level content expected
  name := by
    rintro _ content ⟨level, rfl, -⟩ expected
    exact rendering.name level content expected
  flag := by
    rintro _ flag ⟨level, rfl, -⟩
    exact rendering.flag level flag
  count := by
    rintro _ number ⟨level, rfl, -⟩
    rw [rendering.count]
    exact Reading.quiet_count number
  optional_null := by
    rintro _ ⟨level, rfl, -⟩
    exact rendering.optional_null level
  optional_some := by
    rintro _ json ⟨level, rfl, -⟩ given
    exact rendering.optional_some level given
  items := by
    rintro _ items ⟨level, rfl, allowed⟩ expected
    obtain ⟨inside, shown⟩ := items_of_allows allowed
    obtain ⟨listed, elements, past, asked⟩ := rendering.items level items expected
    rw [asked, Reading.upTo_of_allows inside]
    exact ⟨listed, rfl, past, elements ▸ shown⟩
  entries := by
    rintro _ fields ⟨level, rfl, allowed⟩
    have inside := entries_of_allows allowed
    refine ⟨fun text => rendering.render (level + 1) (.str text),
      fun _ json => rendering.render (level + 1) json, fun expected => ?_, spells inside,
      fun field member => shows_of_mem allowed member⟩
    rw [rendering.entries, Reading.upTo_of_allows inside]
    rfl
  record := by
    rintro _ fields ⟨level, rfl, -⟩ expected
    exact rendering.record level fields expected
  tagged := by
    rintro _ fields ⟨level, rfl, -⟩ expected
    exact rendering.tagged level fields expected
  skip := by
    rintro _ json ⟨level, rfl, -⟩
    exact skips level json
  json := by
    rintro _ json ⟨level, rfl, allowed⟩
    rw [rendering.json level json (Reading.allows_mono (Nat.le_add_right _ _) allowed),
      Reading.upTo_of_allows allowed]
  buffer := by
    rintro _ json ⟨level, rfl, allowed⟩ expected
    rw [rendering.buffer level json expected (Reading.allows_mono (Nat.le_add_right _ _) allowed),
      Reading.upTo_of_allows allowed]

end Rendering

end KvTables
