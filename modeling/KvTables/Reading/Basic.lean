import KvTables.Files
import KvTables.Log
import KvTables.Reading.Fault

/-! Readings: computations that turn what was written into values.

A reading sees the files, may fail, writes log lines, and counts the aliases it has followed. Lines
written before a fault are kept.
-/

set_option autoImplicit false

namespace KvTables

structure Outcome (α : Type) where
  result : Except Fault α
  log : List Log.Line
  followed : Nat

def Reading (α : Type) : Type := Files → Nat → Outcome α

namespace Reading

variable {α β : Type}

def succeed (value : α) : Reading α := fun _ followed => ⟨.ok value, [], followed⟩

def andThen (first : Reading α) (next : α → Reading β) : Reading β := fun files followed =>
  let one := first files followed
  match one.result with
  | .error fault => ⟨.error fault, one.log, one.followed⟩
  | .ok value =>
    let two := next value files one.followed
    ⟨two.result, one.log ++ two.log, two.followed⟩

instance : Monad Reading where
  pure := succeed
  bind := andThen

def fail (fault : Fault) : Reading α := fun _ followed => ⟨.error fault, [], followed⟩

def broken (cause : SyntaxError) : Reading α := fail (.broken cause)

def mismatch (cause : Mismatch) : Reading α := fail (.mismatch none cause)

def ofExcept : Except SyntaxError α → Reading α
  | .ok value => pure value
  | .error cause => broken cause

/-- The result of a reading as a value; the lines it wrote and the aliases it followed count. -/
def attempt (reading : Reading α) : Reading (Except Fault α) := fun files followed =>
  let outcome := reading files followed
  ⟨.ok outcome.result, outcome.log, outcome.followed⟩

def onFault (change : Fault → Fault) (reading : Reading α) : Reading α := fun files followed =>
  let outcome := reading files followed
  { outcome with result := outcome.result.mapError change }

/-- A computation on files whose refusal counts as a mismatch. -/
def consult (load : Files → Logged (Except Mismatch α)) : Reading α := fun files followed =>
  let loaded := load files
  ⟨loaded.value.mapError (.mismatch none), loaded.log, followed⟩

/-- Count one more alias, unless that exceeds the limit. -/
def follow (limit : Nat) : Reading Unit := fun _ followed =>
  if followed < limit then ⟨.ok (), [], followed + 1⟩
  else ⟨.error (.broken .tooManyAliases), [], followed + 1⟩

def run (reading : Reading α) (files : Files) : Logged (Except Fault α) :=
  let outcome := reading files 0
  ⟨outcome.result, outcome.log⟩

theorem succeed_andThen (value : α) (next : α → Reading β) :
    (succeed value).andThen next = next value := rfl

theorem andThen_succeed (reading : Reading α) : reading.andThen succeed = reading := by
  funext files followed
  simp only [andThen]
  cases same : (reading files followed).result with
  | error fault => simp only [← same]
  | ok value => simp only [succeed, List.append_nil, ← same]

theorem andThen_assoc {γ : Type} (first : Reading α) (next : α → Reading β)
    (last : β → Reading γ) :
    (first.andThen next).andThen last = first.andThen fun value => (next value).andThen last := by
  funext files followed
  simp only [andThen]
  cases (first files followed).result with
  | error fault => rfl
  | ok value =>
    cases same : (next value files (first files followed).followed).result with
    | error fault => simp only [same]
    | ok value => simp only [same, List.append_assoc]

instance : LawfulMonad Reading :=
  LawfulMonad.mk' Reading andThen_succeed succeed_andThen andThen_assoc

@[simp] theorem broken_bind (cause : SyntaxError) (next : α → Reading β) :
    (broken cause >>= next) = broken cause := rfl

@[simp] theorem ofExcept_ok (value : α) : ofExcept (.ok value) = pure value := rfl

@[simp] theorem ofExcept_error (cause : SyntaxError) :
    ofExcept (.error cause) = (broken cause : Reading α) := rfl

@[simp] theorem attempt_pure (value : α) :
    attempt (pure value : Reading α) = pure (.ok value) := rfl

@[simp] theorem run_pure (value : α) (files : Files) :
    (pure value : Reading α).run files = Logged.silent (.ok value) := rfl

@[simp] theorem run_broken (cause : SyntaxError) (files : Files) :
    (broken cause : Reading α).run files = Logged.silent (.error (.broken cause)) := rfl

end Reading

end KvTables
