import KvTables.Reading.Record
import KvTables.Reading.Variants

/-! Promises of readings.

What every value and every mismatch promises, and two readings in turn promise if each of them does, is
promised by every record, list and choice read from a source whose answers promise it. Each walk over the
questions of a type is made once, here, for all promises.
-/

set_option autoImplicit false

namespace KvTables

variable {α β ν : Type}

namespace Reading

/-- A property of readings, together with what is said of the values they return. -/
structure Promise where
  Made {α : Type} (Post : α → Prop) (reading : Reading α) : Prop
  value {α : Type} {Post : α → Prop} {result : α} (post : Post result) : Made Post (pure result)
  refusal {α : Type} {Post : α → Prop} (cause : Mismatch) : Made Post (mismatch cause : Reading α)
  inTurn {α β : Type} {Post : α → Prop} {Then : β → Prop} {first : Reading α} {next : α → Reading β}
    (early : Made Post first) (late : ∀ value, Post value → Made Then (next value)) :
    Made Then (first >>= next)

variable {promise : Promise}

def KeepsTo (promise : Promise) (Post : α → Prop) (reading : Reading α) : Prop :=
  promise.Made Post reading

abbrev Keeps (promise : Promise) (reading : Reading α) : Prop := KeepsTo promise (fun _ => True) reading

structure Promise.OnText (promise : Promise) : Prop where
  broken {α : Type} {Post : α → Prop} (cause : SyntaxError) :
    KeepsTo promise Post (broken cause : Reading α)

/-- Promises that outlast aliases, and the paths that mismatches are given. -/
structure Promise.OnNodes (promise : Promise) : Prop extends promise.OnText where
  follow (limit : Nat) : Keeps promise (follow limit)
  onFault {α : Type} {Post : α → Prop} {reading : Reading α} (keeps : KeepsTo promise Post reading)
    (change : Fault → Fault) : KeepsTo promise Post (reading.onFault change)

namespace KeepsTo

variable {Post : α → Prop} {Then : β → Prop}

protected theorem pure {value : α} (post : Post value) :
    (pure value : Reading α).KeepsTo promise Post := promise.value post

protected theorem mismatch (cause : Mismatch) : (mismatch cause : Reading α).KeepsTo promise Post :=
  promise.refusal cause

protected theorem bind {first : Reading α} {next : α → Reading β}
    (keeps : first.KeepsTo promise Post)
    (goesOn : ∀ value, Post value → (next value).KeepsTo promise Then) :
    (first >>= next).KeepsTo promise Then := promise.inTurn keeps goesOn

end KeepsTo

namespace Keeps

protected theorem pure (value : α) : (pure value : Reading α).Keeps promise := KeepsTo.pure trivial

protected theorem bind {first : Reading α} {next : α → Reading β} (keeps : first.Keeps promise)
    (goesOn : ∀ value, (next value).Keeps promise) : (first >>= next).Keeps promise :=
  KeepsTo.bind keeps fun value _ => goesOn value

protected theorem map {reading : Reading α} (keeps : reading.Keeps promise) (f : α → β) :
    (f <$> reading).Keeps promise := by
  rw [map_eq_pure_bind]
  exact keeps.bind fun value => .pure (f value)

end Keeps

theorem Promise.OnText.ofExcept (onText : promise.OnText) (result : Except SyntaxError α) :
    (ofExcept result).Keeps promise := by
  cases result with
  | ok value => exact .pure value
  | error cause => exact onText.broken cause

end Reading

open Reading (Keeps KeepsTo Promise)

variable {promise : Promise}

def Items.Keep (promise : Promise) (items : Items ν) : Prop :=
  items.past.Keeps promise ∧ ∀ taken, (items.surplus taken).Keeps promise

def Entries.Keep (promise : Promise) (entries : Entries ν) : Prop := entries.past.Keeps promise

def Parts.Keep (promise : Promise) : Parts ν → Prop
  | .items found => found.Keep promise
  | .entries found => found.Keep promise

structure Choice.Keep (promise : Promise) (choice : Choice ν) : Prop where
  name : choice.name.Keeps promise
  bare : choice.bare.Keeps promise
  payload : choice.payload.Keeps promise
  close : choice.close.Keeps promise

theorem Choice.keep_ofText {name : Reading Name} (keeps : name.Keeps promise) :
    (ofText name : Choice ν).Keep promise :=
  ⟨keeps, .pure (), .mismatch _, .pure ()⟩

/-- All that a source is asked is answered with a promise. -/
structure Answers (promise : Promise) (ν : Type) [Source ν] : Prop where
  place {α : Type} {Post : α → Prop} (value : ν) {reading : Reading α}
    (keeps : reading.KeepsTo promise Post) : (Source.place value reading).KeepsTo promise Post
  text (expected : String) (value : ν) : (Source.text expected value).Keeps promise
  name (expected : String) (value : ν) : (Source.name expected value).Keeps promise
  flag (value : ν) : (Source.flag value).Keeps promise
  count (value : ν) : (Source.count value).Keeps promise
  optional (value : ν) : (Source.optional value).Keeps promise
  items (expected : String) (value : ν) :
    (Source.items expected value).KeepsTo promise (Items.Keep promise)
  entries (expected : String) (value : ν) :
    (Source.entries expected value).KeepsTo promise (Entries.Keep promise)
  record (expected : String) (value : ν) :
    (Source.record expected value).KeepsTo promise (Parts.Keep promise)
  tagged (expected : String) (value : ν) :
    (Source.tagged expected value).KeepsTo promise (Parts.Keep promise)
  -- All that is read of a variant is visited at once, since some sources place the whole of it.
  choice {α : Type} (value : ν) {visit : Choice ν → Reading α}
    (keeps : ∀ choice : Choice ν, choice.Keep promise → (visit choice).Keeps promise) :
    (Source.choice value visit).Keeps promise
  skip (value : ν) : (Source.skip value).Keeps promise
  json (value : ν) : (Source.json value).Keeps promise
  buffer (expected : String) (value : ν) : (Source.buffer expected value).Keeps promise

namespace Answers

theorem pick {variants : List (String × α)} (Post : α → Prop)
    (all : ∀ variant ∈ variants, Post variant.2) (name : Name) :
    (Reading.pick variants name).KeepsTo promise Post := by
  cases name with
  | text text =>
    rw [Reading.pick]
    split
    · next variant found =>
      obtain ⟨before, after, split, -⟩ := List.lookup_eq_some_iff.1 found
      exact .pure (all (text, variant) (split ▸ List.mem_append_right _ List.mem_cons_self))
    · exact .mismatch _
  | index index =>
    rw [Reading.pick]
    split
    · next named variant found => exact .pure (all (named, variant) (List.mem_of_getElem? found))
    · exact .mismatch _

theorem each {read : ν → Reading α} (keeps : ∀ value, (read value).Keeps promise) (elements : List ν) :
    (Reading.each read elements).Keeps promise := by
  induction elements with
  | nil => exact .pure []
  | cons element rest ih => exact (keeps element).bind fun value => ih.bind fun others => .pure _

variable [Source ν] (answers : Answers promise ν)

include answers

theorem optionally {read : ν → Reading α} (keeps : ∀ value, (read value).Keeps promise) (value : ν) :
    (Reading.optional read value).Keeps promise := by
  refine (answers.optional value).bind fun given => ?_
  cases given with
  | none => exact .pure none
  | some inner => exact (keeps inner).map some

theorem list {read : ν → Reading α} (keeps : ∀ value, (read value).Keeps promise) (value : ν) :
    (Reading.list read value).Keeps promise := by
  refine answers.place value (KeepsTo.bind (answers.items _ value) fun items ends => ?_)
  exact (each keeps items.elements).bind fun elements => ends.1.bind fun _ => .pure elements

theorem pairs (entries : List (ν × ν)) : (Reading.pairs entries).Keeps promise := by
  induction entries with
  | nil => exact .pure []
  | cons entry rest ih =>
    obtain ⟨key, value⟩ := entry
    refine (answers.text _ key).bind fun text => (answers.json value).bind fun json => ?_
    exact ih.bind fun fields => .pure _

theorem object (value : ν) : (Reading.object value).Keeps promise := by
  refine answers.place value (KeepsTo.bind (answers.entries _ value) fun entries past => ?_)
  refine (answers.pairs entries.pairs).bind fun fields => ?_
  exact Keeps.bind past fun _ => .pure _

theorem bare (variants : List (String × α)) (value : ν) :
    (Reading.bare variants value).Keeps promise := by
  refine answers.choice value fun choice keeps => keeps.name.bind fun name => ?_
  refine KeepsTo.bind (pick (fun _ => True) (fun _ _ => trivial) name) fun variant _ => ?_
  refine keeps.bare.bind fun _ => ?_
  exact keeps.close.bind fun _ => .pure variant

theorem withPayload {variants : List (String × (ν → Reading α))}
    (all : ∀ variant ∈ variants, ∀ value, (variant.2 value).Keeps promise) (value : ν) :
    (Reading.withPayload variants value).Keeps promise := by
  refine answers.choice value fun choice keeps => keeps.name.bind fun name => ?_
  refine KeepsTo.bind (pick (fun read => ∀ value, (read value).Keeps promise) all name)
    fun read each => keeps.payload.bind fun payload => ?_
  exact (each payload).bind fun variant => keeps.close.bind fun _ => .pure variant

variable {F : Type} [DecidableEq F] {Value : F → Type} {shape : Shape F Value}
  {readField : (field : F) → ν → Reading (Value field)}

theorem readPairs (keeps : ∀ field value, (readField field value).Keeps promise) (entries : List (ν × ν))
    (slots : Slots Value) : (shape.readPairs readField entries slots).Keeps promise := by
  induction entries generalizing slots with
  | nil => exact .pure slots
  | cons entry rest ih =>
    obtain ⟨key, value⟩ := entry
    refine (answers.name _ key).bind fun name => ?_
    cases shape.find? name with
    | none => exact (answers.skip value).bind fun _ => ih slots
    | some field =>
      dsimp only
      split
      · exact .mismatch _
      · exact (keeps field value).bind fun found => ih _

omit [Source ν] answers in
theorem readItems (keeps : ∀ field value, (readField field value).Keeps promise)
    {past : Reading Unit} (ends : past.Keeps promise) (fields : List F) (elements : List ν)
    (index : Nat) (slots : Slots Value) :
    (shape.readItems readField past index fields elements slots).Keeps promise := by
  induction fields generalizing elements index slots with
  | nil =>
    rw [Shape.readItems]
    exact .pure slots
  | cons field fields ih =>
    cases elements with
    | nil =>
      rw [Shape.readItems]
      refine ends.bind fun _ => ?_
      cases shape.absent field with
      | none => exact .mismatch _
      | some value => exact ih _ _ _
    | cons element elements =>
      rw [Shape.readItems]
      exact (keeps field element).bind fun _ => ih _ _ _

omit [Source ν] [DecidableEq F] answers in
theorem close (slots : Slots Value) : Reading.Keeps promise (match shape.close slots with
    | .ok values => pure values
    | .error cause => Reading.mismatch cause) := by
  cases shape.close slots with
  | ok values => exact .pure values
  | error cause => exact .mismatch cause

/-- A record promises what its fields do. -/
theorem read (keeps : ∀ field value, (readField field value).Keeps promise) (value : ν) :
    (shape.read readField value).Keeps promise := by
  refine answers.place value (KeepsTo.bind (answers.record _ value) fun found parts => ?_)
  cases found with
  | entries entries =>
    refine (answers.readPairs keeps entries.pairs Slots.empty).bind fun slots => ?_
    exact KeepsTo.bind parts fun _ _ => close slots
  | items items =>
    refine (readItems keeps parts.1 shape.fields items.elements 0 Slots.empty).bind fun slots => ?_
    exact (parts.2 _).bind fun _ => close slots

end Answers

end KvTables
