import KvTables.Proofs.Reading.Forms
import KvTables.Proofs.Reading.Leads

/-! Backends read in two steps.

The name and the fields of a backend are kept aside without a look at the files. What they make, only the
files have a say in: values kept aside follow no alias, and their mismatches have no path. Both are
promises, so each walk over the types that are read is the one made for all of them.
-/

set_option autoImplicit false

namespace KvTables

variable {α β : Type}

namespace Reading

variable {Post : α → Prop} {Then : β → Prop}

/-- The files are not looked at, and a success is as described. -/
def Blind (Post : α → Prop) (reading : Reading α) : Prop :=
  ∀ files others followed, reading others followed = reading files followed ∧
    ∀ value, (reading files followed).result = .ok value → Post value

namespace Blind

protected theorem pure {value : α} (post : Post value) : (pure value : Reading α).Blind Post := by
  refine fun files others followed => ⟨rfl, fun result ok => ?_⟩
  obtain rfl : value = result := Except.ok.inj ok
  exact post

protected theorem fail (fault : Fault) : (fail fault : Reading α).Blind Post :=
  fun _ _ _ => ⟨rfl, fun _ ok => (by cases ok)⟩

protected theorem bind {first : Reading α} {next : α → Reading β} (blind : first.Blind Post)
    (goesOn : ∀ value, Post value → (next value).Blind Then) : (first >>= next).Blind Then := by
  intro files others followed
  obtain ⟨same, post⟩ := blind files others followed
  cases found : first files followed with
  | mk result log later =>
  rw [found] at same post
  cases result with
  | error fault =>
    rw [bind_at_error found, bind_at_error same]
    exact ⟨rfl, fun _ ok => (by cases ok)⟩
  | ok value =>
    obtain ⟨sameNext, final⟩ := goesOn value (post value rfl) files others later
    rw [bind_at_ok found, bind_at_ok same, sameNext]
    exact ⟨rfl, final⟩

protected theorem onFault {reading : Reading α} (blind : reading.Blind Post)
    (change : Fault → Fault) : (reading.onFault change).Blind Post := by
  intro files others followed
  obtain ⟨same, post⟩ := blind files others followed
  refine ⟨?_, fun value ok => post value (ok_of_onFault ok)⟩
  simp only [Reading.onFault, same]

end Blind

/-- The aliases followed before do not matter and none is followed. A success is as described, and a
fault is a mismatch that has no path yet. -/
def Steady (Post : α → Prop) (reading : Reading α) : Prop :=
  ∀ files, ∃ result log, (∀ followed, reading files followed = ⟨result, log, followed⟩) ∧
    match result with
    | .ok value => Post value
    | .error fault => ∃ cause, fault = .mismatch none cause

namespace Steady

protected theorem pure {value : α} (post : Post value) : (pure value : Reading α).Steady Post :=
  fun _ => ⟨.ok value, [], fun _ => rfl, post⟩

protected theorem mismatch (cause : Mismatch) : (mismatch cause : Reading α).Steady Post :=
  fun _ => ⟨.error (.mismatch none cause), [], fun _ => rfl, cause, rfl⟩

protected theorem bind {first : Reading α} {next : α → Reading β} (steady : first.Steady Post)
    (goesOn : ∀ value, Post value → (next value).Steady Then) : (first >>= next).Steady Then := by
  intro files
  obtain ⟨result, log, same, described⟩ := steady files
  cases result with
  | error fault => exact ⟨_, _, fun followed => bind_at_error (same followed), described⟩
  | ok value =>
    obtain ⟨last, more, sameNext, final⟩ := goesOn value described files
    refine ⟨last, log ++ more, fun followed => ?_, final⟩
    rw [bind_at_ok (same followed), sameNext]

protected theorem consult (load : Files → Logged (Except Mismatch α)) :
    (consult load).Steady fun _ => True := by
  intro files
  refine ⟨_, _, fun followed => rfl, ?_⟩
  cases (load files).value with
  | ok value => trivial
  | error cause => exact ⟨cause, rfl⟩

end Steady

namespace Promise

def blind : Promise where
  Made := Blind
  value := Blind.pure
  refusal _ := Blind.fail _
  inTurn := Blind.bind

theorem blind_onNodes : blind.OnNodes where
  broken _ := Blind.fail _
  follow _ _ _ _ := ⟨rfl, fun _ _ => trivial⟩
  onFault := Blind.onFault

def steady : Promise where
  Made := Steady
  value := Steady.pure
  refusal := Steady.mismatch
  inTurn := Steady.bind

theorem steady_onFiles : steady.OnFiles where
  load _ := Steady.consult _

end Promise

end Reading

open Reading (Promise)

namespace Backend.Named

theorem blind_fields (cursor : Yaml.Cursor) : (fields cursor).Blind fun _ => True :=
  (Yaml.Cursor.answers Promise.blind_onNodes).fields cursor

theorem steady_finish (split : Option String × List (Buffer × Buffer)) :
    (finish split).Steady fun _ => True :=
  Answers.finish Promise.steady_onFiles split

end Backend.Named

end KvTables
