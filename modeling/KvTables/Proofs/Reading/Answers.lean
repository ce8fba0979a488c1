import KvTables.Json.FromText
import KvTables.Json.FromValue
import KvTables.Proofs.Reading.Promises
import KvTables.Reading.FromBuffer
import KvTables.Yaml.FromText

/-! What the four sources answer promises what it has to: JSON values and values kept aside any promise,
JSON text what broken texts promise as well, YAML nodes what outlasts aliases and paths besides. -/

set_option autoImplicit false

namespace KvTables

open Reading (Keeps KeepsTo Promise)

variable {α : Type} {promise : Promise}

namespace Json

variable {Post : α → Prop}

theorem keeps_count (number : Number) : number.count.Keeps promise := by
  cases number with
  | int value fits =>
    rw [Number.count]
    split
    · exact .mismatch _
    · exact .pure _
  | float value => exact .mismatch _

theorem keeps_unit (json : Json) : json.unit.Keeps promise := by
  cases json with
  | null => exact .pure ()
  | _ => exact .mismatch _

theorem keeps_itemsOf (items : List Json) : (itemsOf items).Keep promise := by
  refine ⟨.pure (), fun taken => ?_⟩
  change Reading.Keeps promise (if taken < items.length then _ else _)
  split
  · exact .mismatch _
  · exact .pure ()

theorem keeps_parts (expected : String) (json : Json) :
    (json.parts expected).KeepsTo promise (Parts.Keep promise) := by
  cases json with
  | arr items => exact .pure (keeps_itemsOf items)
  | obj fields => exact .pure (Keeps.pure ())
  | _ => exact .mismatch _

theorem keeps_choice (json : Json) : json.choice.KeepsTo promise (Choice.Keep promise) := by
  unfold choice
  split
  · exact .pure (Choice.keep_ofText (.pure _))
  · next payload => exact .pure ⟨.pure _, keeps_unit payload, .pure _, .pure ()⟩
  · exact .mismatch _
  · exact .mismatch _

theorem answers : Answers promise Json where
  place _ _ keeps := keeps
  text expected json := by cases json <;> first | exact .pure _ | exact .mismatch _
  name expected json := by cases json <;> first | exact .pure _ | exact .mismatch _
  flag json := by cases json <;> first | exact .pure _ | exact .mismatch _
  count json := by
    cases json with
    | num number => exact keeps_count number
    | _ => exact .mismatch _
  optional json := by cases json <;> exact .pure _
  items expected json := by
    cases json with
    | arr items => exact .pure (keeps_itemsOf items)
    | _ => exact .mismatch _
  entries expected json := by
    cases json with
    | obj fields => exact .pure (Keeps.pure ())
    | _ => exact .mismatch _
  record := keeps_parts
  tagged := keeps_parts
  choice json _ keeps := KeepsTo.bind (keeps_choice json) keeps
  skip _ := .pure ()
  json _ := .pure _
  buffer _ _ := .pure _

namespace Cursor

section

variable (onText : promise.OnText)

include onText

theorem keeps_unexpected (cursor : Cursor) (expected : String) :
    (cursor.unexpected expected : Reading α).KeepsTo promise Post := by
  unfold unexpected
  split
  · exact .mismatch _
  · exact onText.broken _

theorem keeps_enter (cursor : Cursor) {next : Nat → α} (post : ∀ room, Post (next room)) :
    (cursor.enter next).KeepsTo promise Post := by
  unfold enter
  split
  · exact onText.broken _
  · exact .pure (post _)

theorem keeps_unit (cursor : Cursor) : cursor.unit.Keeps promise := by
  unfold unit
  split
  · exact .pure ()
  · exact keeps_unexpected onText _ _

theorem keeps_text (expected : String) (cursor : Cursor) : (cursor.text expected).Keeps promise := by
  unfold text
  split
  · exact onText.ofExcept _
  · exact keeps_unexpected onText _ _

theorem keeps_itemsOf (items : List Draft) (tail : Tail) (room : Nat) :
    (itemsOf items tail room).Keep promise := by
  refine ⟨onText.ofExcept _, fun taken => ?_⟩
  change (surplus items tail taken).Keeps promise
  unfold surplus
  split
  · exact onText.ofExcept _
  · exact onText.broken _
  · exact onText.broken _

theorem keeps_entriesOf (pairs : List (Leaf String × Draft)) (tail : Tail) (room : Nat) :
    (entriesOf pairs tail room).Keep promise := onText.ofExcept _

theorem keeps_parts (expected : String) (cursor : Cursor) :
    (cursor.parts expected).KeepsTo promise (Parts.Keep promise) := by
  unfold parts
  split
  · exact keeps_enter onText _ fun room => keeps_itemsOf onText _ _ room
  · exact keeps_enter onText _ fun room => keeps_entriesOf onText _ _ room
  · exact keeps_unexpected onText _ _

theorem keeps_variant (pairs : List (Leaf String × Draft)) (tail : Tail) (room : Nat) :
    (variant pairs tail room).Keep promise := by
  cases pairs with
  | nil => cases tail <;> exact ⟨onText.broken _, onText.broken _, onText.broken _, onText.broken _⟩
  | cons pair rest =>
    refine ⟨(onText.ofExcept _).map _, keeps_unit onText _, .pure _, ?_⟩
    change Reading.Keeps promise (if rest.isEmpty then _ else _)
    split
    · exact onText.ofExcept _
    · exact onText.broken _

theorem keeps_choice (cursor : Cursor) : cursor.choice.KeepsTo promise (Choice.Keep promise) := by
  unfold choice
  split
  · exact .pure (Choice.keep_ofText ((onText.ofExcept _).map _))
  · exact keeps_enter onText _ fun room => keeps_variant onText _ _ room
  · exact onText.broken _
  · exact onText.broken _

theorem answers : Answers promise Cursor where
  place _ _ keeps := keeps
  text := keeps_text onText
  name expected cursor := (keeps_text onText expected cursor).map _
  flag cursor := by
    simp only [Source.flag]
    split
    · exact .pure _
    · exact keeps_unexpected onText _ _
  count cursor := by
    simp only [Source.count]
    split
    · exact (onText.ofExcept _).bind keeps_count
    · exact keeps_unexpected onText _ _
  optional cursor := by
    simp only [Source.optional]
    split
    · exact .pure _
    · exact onText.broken _
    · exact .pure _
  items expected cursor := by
    change (items expected cursor).KeepsTo promise _
    unfold items
    split
    · exact keeps_enter onText _ fun room => keeps_itemsOf onText _ _ room
    · exact keeps_unexpected onText _ _
  entries expected cursor := by
    change (entries expected cursor).KeepsTo promise _
    unfold entries
    split
    · exact keeps_enter onText _ fun room => keeps_entriesOf onText _ _ room
    · exact keeps_unexpected onText _ _
  record := keeps_parts onText
  tagged := keeps_parts onText
  choice cursor _ keeps := KeepsTo.bind (keeps_choice onText cursor) keeps
  skip _ := onText.ofExcept _
  json _ := onText.ofExcept _
  buffer _ _ := (onText.ofExcept _).map _

end

end Cursor

end Json

namespace Buffer

theorem keeps_unit (buffer : Buffer) : buffer.unit.Keeps promise := by
  cases buffer with
  | null => exact .pure ()
  | _ => exact .mismatch _

theorem keeps_itemsOf (items : List Buffer) : (itemsOf items).Keep promise := by
  refine ⟨.pure (), fun taken => ?_⟩
  change Reading.Keeps promise (if taken < items.length then _ else _)
  split
  · exact .mismatch _
  · exact .pure ()

theorem keeps_parts (expected : String) (buffer : Buffer) :
    (buffer.parts expected).KeepsTo promise (Parts.Keep promise) := by
  cases buffer with
  | list items => exact .pure (keeps_itemsOf items)
  | mapping pairs => exact .pure (Keeps.pure ())
  | _ => exact .mismatch _

theorem keeps_name (expected : String) (buffer : Buffer) : (buffer.name expected).Keeps promise := by
  unfold name
  split
  · exact .pure _
  · split
    · exact .pure _
    · exact .mismatch _
  · exact .mismatch _

theorem keeps_choice (buffer : Buffer) : buffer.choice.KeepsTo promise (Choice.Keep promise) := by
  unfold choice
  split
  · exact .pure (Choice.keep_ofText (.pure _))
  · next key payload => exact .pure ⟨keeps_name _ key, keeps_unit payload, .pure _, .pure ()⟩
  · exact .mismatch _
  · exact .mismatch _

theorem answers : Answers promise Buffer where
  place _ _ keeps := keeps
  text expected buffer := by cases buffer <;> first | exact .pure _ | exact .mismatch _
  name := keeps_name
  flag buffer := by cases buffer <;> first | exact .pure _ | exact .mismatch _
  count buffer := by
    cases buffer with
    | num number => exact Json.keeps_count number
    | minusZero => exact .pure 0
    | _ => exact .mismatch _
  optional buffer := by cases buffer <;> exact .pure _
  items expected buffer := by
    cases buffer with
    | list items => exact .pure (keeps_itemsOf items)
    | _ => exact .mismatch _
  entries expected buffer := by
    cases buffer with
    | mapping pairs => exact .pure (Keeps.pure ())
    | _ => exact .mismatch _
  record := keeps_parts
  tagged := keeps_parts
  choice buffer _ keeps := KeepsTo.bind (keeps_choice buffer) keeps
  skip _ := .pure ()
  json buffer := by
    simp only [Source.json]
    split
    · exact .pure _
    · exact .mismatch _
  buffer _ _ := .pure _

end Buffer

namespace Yaml.Cursor

variable {Post : α → Prop}

theorem keeps_itemsOf (elements : List Cursor) : (itemsOf elements).Keep promise :=
  ⟨.pure (), fun _ => .pure ()⟩

theorem keeps_entriesOf (pairs : List (Cursor × Cursor)) : (entriesOf pairs).Keep promise :=
  Keeps.pure ()

theorem keeps_scalarToJson (found : Found) : (scalarToJson found).Keeps promise := by
  unfold scalarToJson
  split <;> first | exact .pure _ | exact .mismatch _ | skip
  split
  · exact .pure _
  · exact .mismatch _

theorem keeps_scalarToBuffer (expected : String) (found : Found) :
    (scalarToBuffer expected found).Keeps promise := by
  unfold scalarToBuffer
  split <;> first | exact .pure _ | exact .mismatch _ | skip
  split
  · exact .pure _
  · exact .mismatch _

theorem keeps_bufferPairs {read : Cursor → Reading Buffer}
    (keeps : ∀ cursor, (read cursor).Keeps promise) (pairs : List (Cursor × Cursor)) :
    (bufferPairs read pairs).Keeps promise := by
  induction pairs with
  | nil => exact .pure []
  | cons pair rest ih =>
    obtain ⟨key, value⟩ := pair
    refine (keeps key).bind fun key => (keeps value).bind fun value => ?_
    exact ih.bind fun others => .pure _

section

variable (onNodes : promise.OnNodes)

include onNodes

theorem keeps_place (cursor : Cursor) {reading : Reading α}
    (keeps : reading.KeepsTo promise Post) : (cursor.place reading).KeepsTo promise Post :=
  onNodes.onFault keeps _

theorem keeps_resolve (cursor : Cursor) : cursor.resolve.Keeps promise := by
  unfold resolve
  split
  · exact (onNodes.follow _).bind fun _ => .pure _
  · exact .pure _

theorem keeps_unexpected (cursor : Cursor) (expected : String) :
    (cursor.unexpected expected : Reading α).KeepsTo promise Post := by
  unfold unexpected
  split
  · split <;> exact .mismatch _
  · exact .mismatch _
  · exact .mismatch _
  · exact onNodes.broken _
  · exact onNodes.broken _
  · exact onNodes.broken _

theorem keeps_enter (cursor : Cursor) {next : Nat → α} (post : ∀ room, Post (next room)) :
    (cursor.enter next).KeepsTo promise Post := by
  unfold enter
  split
  · exact onNodes.broken _
  · exact .pure (post _)

/-- A question to a node is put to what its alias stands for, and placed there. -/
theorem keeps_resolved (cursor : Cursor) {ask : Cursor → Reading α}
    (keeps : ∀ cursor, (ask cursor).KeepsTo promise Post) :
    (cursor.resolve >>= fun target => target.place (ask target)).KeepsTo promise Post :=
  KeepsTo.bind (keeps_resolve onNodes cursor) fun target _ => keeps_place onNodes target (keeps target)

theorem keeps_text (expected : String) (cursor : Cursor) : (cursor.text expected).Keeps promise := by
  refine keeps_resolved onNodes cursor fun target => ?_
  split
  · exact .pure trivial
  · exact keeps_unexpected onNodes _ _

theorem keeps_dispatch (cursor : Cursor) {variant : Reading α} {scalar : Found → Reading α}
    {items : List Cursor → Reading α} {pairs : List (Cursor × Cursor) → Reading α}
    (named : variant.KeepsTo promise Post) (plain : ∀ found, (scalar found).KeepsTo promise Post)
    (listed : ∀ elements, (items elements).KeepsTo promise Post)
    (keyed : ∀ entries, (pairs entries).KeepsTo promise Post) :
    (cursor.dispatch variant scalar items pairs).KeepsTo promise Post := by
  unfold dispatch
  split
  · exact named
  · split
    · split
      · exact plain _
      · exact .mismatch _
    · have entered (next : Nat → List Cursor) : (cursor.enter next).Keeps promise :=
        keeps_enter onNodes cursor fun _ => trivial
      exact KeepsTo.bind (entered _) fun elements _ => listed elements
    · have entered (next : Nat → List (Cursor × Cursor)) : (cursor.enter next).Keeps promise :=
        keeps_enter onNodes cursor fun _ => trivial
      exact KeepsTo.bind (entered _) fun entries _ => keyed entries
    · exact plain _
    · exact onNodes.broken _
    · exact onNodes.broken _

theorem keeps_entries (expected : String) (cursor : Cursor) :
    (cursor.entries expected).KeepsTo promise (Entries.Keep promise) := by
  refine keeps_resolved onNodes cursor fun target => ?_
  split
  · exact keeps_enter onNodes _ fun room => keeps_entriesOf _
  · split
    · exact .pure (keeps_entriesOf [])
    · exact keeps_unexpected onNodes _ _

theorem keeps_unit (cursor : Cursor) : cursor.unit.Keeps promise := by
  refine keeps_resolved onNodes cursor fun target => ?_
  split
  · split
    · exact .pure trivial
    · exact .mismatch _
  · exact .pure trivial
  · exact keeps_unexpected onNodes _ _

theorem keeps_choice (cursor : Cursor) {visit : Choice Cursor → Reading α}
    (keeps : ∀ choice : Choice Cursor, choice.Keep promise → (visit choice).Keeps promise) :
    (cursor.choice visit).Keeps promise := by
  refine (keeps_resolve onNodes cursor).bind fun target => ?_
  extract_lets payload reading
  have chosen : reading.Keeps promise := by
    dsimp only [reading]
    split
    · exact keeps _ ⟨.pure _, keeps_unit onNodes _, .pure _, .pure ()⟩
    · refine keeps_place onNodes target ?_
      split
      · exact keeps _ (Choice.keep_ofText (.pure _))
      · exact keeps_unexpected onNodes _ _
      · exact keeps_unexpected onNodes _ _
      · exact onNodes.broken _
      · exact onNodes.broken _
      · exact onNodes.broken _
  split
  · exact keeps_place onNodes cursor chosen
  · exact chosen

theorem keeps_jsonFields {read : Cursor → Reading Json}
    (keeps : ∀ cursor, (read cursor).Keeps promise) (expected : String)
    (pairs : List (Cursor × Cursor)) : (jsonFields read expected pairs).Keeps promise := by
  induction pairs generalizing expected with
  | nil => exact .pure []
  | cons pair rest ih =>
    obtain ⟨key, value⟩ := pair
    refine (keeps_text onNodes _ key).bind fun key => (keeps value).bind fun value => ?_
    exact (ih _).bind fun others => .pure _

theorem keeps_json (depth : Nat) (cursor : Cursor) : (cursor.json depth).Keeps promise := by
  induction depth generalizing cursor with
  | zero =>
    unfold json
    exact keeps_resolved onNodes cursor fun target => keeps_dispatch onNodes target (.mismatch _)
      keeps_scalarToJson (fun _ => onNodes.broken _) fun _ => onNodes.broken _
  | succ depth ih =>
    unfold json
    exact keeps_resolved onNodes cursor fun target => keeps_dispatch onNodes target (.mismatch _)
      keeps_scalarToJson (fun elements => (Answers.each ih elements).map _)
      fun pairs => (keeps_jsonFields onNodes ih _ pairs).map _

theorem keeps_buffer (depth : Nat) (expected : String) (cursor : Cursor) :
    (cursor.buffer depth expected).Keeps promise := by
  induction depth generalizing cursor expected with
  | zero =>
    unfold buffer
    exact keeps_resolved onNodes cursor fun target => keeps_dispatch onNodes target (.mismatch _)
      (keeps_scalarToBuffer expected) (fun _ => onNodes.broken _) fun _ => onNodes.broken _
  | succ depth ih =>
    unfold buffer
    exact keeps_resolved onNodes cursor fun target => keeps_dispatch onNodes target (.mismatch _)
      (keeps_scalarToBuffer expected) (fun elements => (Answers.each (ih _) elements).map _)
      fun pairs => (keeps_bufferPairs (ih _) pairs).map _

theorem answers : Answers promise Cursor where
  place cursor _ keeps := keeps_place onNodes cursor keeps
  text := keeps_text onNodes
  name expected cursor := (keeps_text onNodes expected cursor).map _
  flag cursor := by
    refine keeps_resolved onNodes cursor fun target => ?_
    split
    · split
      · exact .pure trivial
      · exact keeps_unexpected onNodes _ _
    · exact keeps_unexpected onNodes _ _
  count cursor := by
    refine keeps_resolved onNodes cursor fun target => ?_
    split
    · split
      · exact .pure trivial
      · exact keeps_unexpected onNodes _ _
    · exact keeps_unexpected onNodes _ _
  optional cursor := by
    refine (keeps_resolve onNodes cursor).bind fun target => ?_
    split
    · split
      · exact .pure _
      · exact .mismatch _
    · exact .pure _
    · exact onNodes.broken _
    · exact .pure _
  items expected cursor := by
    refine keeps_resolved onNodes cursor fun target => ?_
    split
    · exact keeps_enter onNodes _ fun room => keeps_itemsOf _
    · split
      · exact .pure (keeps_itemsOf [])
      · exact keeps_unexpected onNodes _ _
  entries := keeps_entries onNodes
  record expected cursor := by
    change (Parts.entries <$> cursor.entries expected).KeepsTo promise _
    rw [map_eq_pure_bind]
    exact KeepsTo.bind (keeps_entries onNodes expected cursor) fun found past => .pure past
  tagged expected cursor :=
    keeps_resolved onNodes cursor fun target => keeps_dispatch onNodes target (.mismatch _)
      (fun _ => .mismatch _) (fun elements => .pure (keeps_itemsOf elements))
      fun pairs => .pure (keeps_entriesOf pairs)
  choice cursor _ keeps := keeps_choice onNodes cursor keeps
  skip _ := onNodes.ofExcept _
  json cursor := keeps_json onNodes _ cursor
  buffer expected cursor := keeps_buffer onNodes _ expected cursor

end

end Yaml.Cursor

end KvTables
