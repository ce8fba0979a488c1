import KvTables.Proofs.Reading.Forms
import KvTables.Proofs.Reading.Leads

/-! Laws for the lines that readings log.

A law that allows silence, that survives putting lines one after the other, and that the loading of files
keeps, is kept by whatever is read.
-/

set_option autoImplicit false

namespace KvTables

variable {α β : Type}

namespace Log

/-- What the lines of a reading have to be like, given the files and whether it succeeds. -/
structure Law where
  Allows : Files → Bool → List Line → Prop
  nil (files : Files) (succeeds : Bool) : Allows files succeeds []
  append {files : Files} {succeeds : Bool} {first second : List Line}
    (early : Allows files true first) (late : Allows files succeeds second) :
    Allows files succeeds (first ++ second)
  load (written : Backend.RocksDb.Written) (files : Files) :
    Allows files (written.load files).value.isOk (written.load files).log

namespace Law

variable (law : Law)

def Keeps (Post : α → Prop) (reading : Reading α) : Prop :=
  ∀ files followed,
    (∀ value, (reading files followed).result = .ok value → Post value) ∧
    law.Allows files (reading files followed).result.isOk (reading files followed).log

variable {law} {Post : α → Prop} {Then : β → Prop}

theorem keeps_pure {value : α} (post : Post value) : law.Keeps Post (pure value : Reading α) := by
  intro files followed
  refine ⟨fun result ok => ?_, law.nil files true⟩
  obtain rfl : value = result := Except.ok.inj ok
  exact post

theorem keeps_fail (fault : Fault) : law.Keeps Post (Reading.fail fault : Reading α) :=
  fun files _ => ⟨fun _ ok => (by cases ok), law.nil files false⟩

theorem keeps_bind {first : Reading α} {next : α → Reading β} (keeps : law.Keeps Post first)
    (goesOn : ∀ value, Post value → law.Keeps Then (next value)) :
    law.Keeps Then (first >>= next) := by
  intro files followed
  obtain ⟨post, early⟩ := keeps files followed
  cases ran : first files followed with
  | mk result lines later =>
  rw [ran] at post early
  cases result with
  | error fault =>
    rw [Reading.bind_at_error ran]
    exact ⟨fun _ ok => (by cases ok), early⟩
  | ok value =>
    obtain ⟨final, late⟩ := goesOn value (post value rfl) files later
    rw [Reading.bind_at_ok ran]
    exact ⟨final, law.append early late⟩

theorem keeps_follow (limit : Nat) : law.Keeps (fun _ => True) (Reading.follow limit) := by
  intro files followed
  unfold Reading.follow
  split
  · exact ⟨fun _ _ => trivial, law.nil files true⟩
  · exact ⟨fun _ _ => trivial, law.nil files false⟩

theorem keeps_onFault {reading : Reading α} (keeps : law.Keeps Post reading)
    (change : Fault → Fault) : law.Keeps Post (reading.onFault change) := by
  intro files followed
  obtain ⟨post, lines⟩ := keeps files followed
  refine ⟨fun value ok => post value (Reading.ok_of_onFault ok), ?_⟩
  simp only [Reading.onFault]
  cases found : (reading files followed).result with
  | error fault =>
    rw [found] at lines
    exact lines
  | ok value =>
    rw [found] at lines
    exact lines

theorem keeps_load (written : Backend.RocksDb.Written) :
    law.Keeps (fun _ => True) (Reading.consult fun files =>
      (written.load files).map (·.mapError fun failure => .refused failure.message)) := by
  intro files followed
  refine ⟨fun _ _ => trivial, ?_⟩
  have lines := law.load written files
  simp only [Reading.consult, Logged.map]
  cases loaded : (written.load files).value with
  | ok found =>
    rw [loaded] at lines
    exact lines
  | error failure =>
    rw [loaded] at lines
    exact lines

theorem keeps_attempt {reading : Reading α} {next : Except Fault α → Reading β}
    (keeps : law.Keeps (fun _ => True) reading)
    (goesOn : ∀ value, law.Keeps (fun _ => True) (next (.ok value)))
    (givesUp : ∀ fault, ∃ other, next (.error fault) = Reading.fail other) :
    law.Keeps (fun _ => True) (Reading.attempt reading >>= next) := by
  intro files followed
  obtain ⟨-, early⟩ := keeps files followed
  refine ⟨fun _ _ => trivial, ?_⟩
  have ran : Reading.attempt reading files followed = ⟨.ok (reading files followed).result,
      (reading files followed).log, (reading files followed).followed⟩ := rfl
  rw [Reading.bind_at_ok ran]
  cases found : (reading files followed).result with
  | error fault =>
    rw [found] at early
    obtain ⟨other, fails⟩ := givesUp fault
    rw [fails]
    exact (List.append_nil (reading files followed).log).symm ▸ early
  | ok value =>
    rw [found] at early
    exact law.append early (goesOn value files _).2

variable (law)

def promise : Reading.Promise where
  Made := law.Keeps
  value := keeps_pure
  refusal _ := keeps_fail _
  inTurn := keeps_bind

theorem throughout : law.promise.Throughout where
  broken _ := keeps_fail _
  follow := keeps_follow
  onFault := keeps_onFault
  load := keeps_load
  attempt := keeps_attempt

end Law

end Log

end KvTables
