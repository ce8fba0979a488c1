import KvTables.Proofs.Reading.Forms

/-! Readings that are settled by what is read.

A settled reading returns a value or fails whatever the files hold, and logs nothing. JSON text and JSON
values settle all that is read from them; only a config that loads a file does not leave it at that.
-/

set_option autoImplicit false

namespace KvTables

variable {α β : Type}

namespace Reading

/-- Either a fault or a value as described, without a look at the files. -/
inductive Settles (Post : α → Prop) : Reading α → Prop where
  | value {result : α} (post : Post result) : Settles Post (pure result)
  | fault (fault : Fault) : Settles Post (fail fault)

abbrev Settled (reading : Reading α) : Prop := Settles (fun _ => True) reading

variable {Post : α → Prop}

theorem Settles.log_run {reading : Reading α} (settles : reading.Settles Post) (files : Files) :
    (reading.run files).log = [] := by
  cases settles <;> rfl

theorem Settles.mono {Then : α → Prop} {reading : Reading α} (settles : reading.Settles Post)
    (weaker : ∀ result, Post result → Then result) : reading.Settles Then := by
  cases settles with
  | value post => exact .value (weaker _ post)
  | fault fault => exact .fault fault

theorem Settles.run_eq {reading : Reading α} (settles : reading.Settles Post) (files others : Files) :
    reading.run files = reading.run others := by
  cases settles <;> rfl

protected theorem Settles.pure (result : α) : (pure result : Reading α).Settled := .value trivial

protected theorem Settles.mismatch (cause : Mismatch) : (mismatch cause : Reading α).Settles Post :=
  .fault _

protected theorem Settles.broken (cause : SyntaxError) : (broken cause : Reading α).Settles Post :=
  .fault _

protected theorem Settles.guard {condition : Prop} [Decidable condition] (cause : Mismatch) :
    (if condition then mismatch cause else pure () : Reading Unit).Settled := by
  split
  · exact .mismatch cause
  · exact .pure ()

protected theorem Settles.bind {first : Reading α} {next : α → Reading β} {Then : β → Prop}
    (settles : first.Settles Post) (goesOn : ∀ result, Post result → (next result).Settles Then) :
    (first >>= next).Settles Then := by
  cases settles with
  | value post =>
    rw [pure_bind]
    exact goesOn _ post
  | fault fault => exact .fault fault

protected theorem Settles.map {reading : Reading α} (settles : reading.Settles Post) (f : α → β) :
    (f <$> reading).Settled := by
  rw [map_eq_pure_bind]
  exact settles.bind fun result _ => .pure (f result)

protected theorem Settles.onFault {reading : Reading α} (settles : reading.Settles Post)
    (change : Fault → Fault) : (reading.onFault change).Settles Post := by
  cases settles with
  | value post => exact .value post
  | fault fault => exact .fault (change fault)

end Reading

open Reading (Settles)

def Reading.Promise.settled : Promise where
  Made Post reading := reading.Settles Post
  value post := .value post
  refusal cause := .mismatch cause
  inTurn := Settles.bind

theorem Reading.Promise.settled_onText : settled.OnText := ⟨Settles.broken⟩

abbrev Settling (ν : Type) [Source ν] : Prop := Answers Reading.Promise.settled ν

theorem Json.settling : Settling Json := Json.answers

theorem Json.Cursor.settling : Settling Json.Cursor :=
  Json.Cursor.answers Reading.Promise.settled_onText

theorem Buffer.settling : Settling Buffer := Buffer.answers

/-- A whole text settles what is read from it. -/
theorem Json.Cursor.settled_readText {read : Cursor → Reading α}
    (settled : ∀ cursor, (read cursor).Settled) (content : String) :
    (readText read content).Settled :=
  keeps_readText Reading.Promise.settled_onText settled content

end KvTables
