import KvTables.Proofs.Reading.Leads
import KvTables.Proofs.Yaml.Complete

/-! A node is read in its place as it is read alone.

In its place a node has less room left and more aliases behind it, so that a limit may be reached. If none
is, both readings log the same lines and come to the same value or to the same mismatch, to which the place
gives a path of its own.
-/

set_option autoImplicit false

namespace KvTables

variable {α β γ δ : Type}

/-- Faults of a text that goes too deep or repeats too much. -/
def Fault.isLimit : Fault → Bool
  | .broken .tooDeep | .broken .tooManyAliases => true
  | _ => false

def Outcome.Limited (outcome : Outcome α) : Prop :=
  ∃ fault, outcome.result = .error fault ∧ fault.isLimit

/-- No path is given to a limit. -/
theorem Outcome.Limited.placed {outcome : Outcome α} (limited : outcome.Limited)
    (path : Option String) :
    ({ outcome with result := outcome.result.mapError (Fault.placed path) } : Outcome α).Limited := by
  obtain ⟨fault, failed, isLimit⟩ := limited
  refine ⟨fault, ?_, isLimit⟩
  change outcome.result.mapError _ = _
  rw [failed]
  cases fault with
  | broken cause => rfl
  | mismatch path cause => cases isLimit

namespace Yaml

namespace Path

/-- The paths from one on. -/
inductive Below (base : Path) : Path → Prop where
  | here : Below base base
  | item {path : Path} (below : Below base path) (index : Nat) : Below base (.item path index)
  | key {path : Path} (below : Below base path) (name : String) : Below base (.key path name)
  | target {path : Path} (below : Below base path) : Below base (.alias path)
  | unknown {path : Path} (below : Below base path) : Below base (.unknown path)

variable {base path : Path}

theorem Below.ne_root (below : base.Below path) (inner : base ≠ .root) : path ≠ .root := by
  cases below with
  | here => exact inner
  | _ => exact nofun

theorem write_key (inner : path ≠ .root) (name : String) :
    (key path name).write = path.write ++ "." ++ name := by
  cases path with
  | root => exact absurd rfl inner
  | _ => rfl

theorem write_unknown (inner : path ≠ .root) : (unknown path).write = path.write ++ ".?" := by
  cases path with
  | root => exact absurd rfl inner
  | _ => rfl

/-- What is written of a path starts with what is written of the paths before it. -/
theorem Below.write_prefix (below : base.Below path) (inner : base ≠ .root) :
    base.write.toList <+: path.write.toList := by
  induction below with
  | here => exact List.prefix_rfl
  | @item path below index ih =>
    have longer : (Path.item path index).write = path.write ++ "[" ++ toString index ++ "]" := rfl
    rw [longer, String.toList_append, String.toList_append, String.toList_append, List.append_assoc,
      List.append_assoc]
    exact ih.trans (List.prefix_append _ _)
  | @key path below name ih =>
    rw [write_key (below.ne_root inner), String.toList_append, String.toList_append,
      List.append_assoc]
    exact ih.trans (List.prefix_append _ _)
  | target below ih => exact ih
  | @unknown path below ih =>
    rw [write_unknown (below.ne_root inner), String.toList_append]
    exact ih.trans (List.prefix_append _ _)

/-- A message that carries a path shows where it lies. -/
theorem Below.shown_prefix (below : base.Below path) (inner : base ≠ .root) {text : String}
    (shown : path.shown = some text) : base.write.toList <+: text.toList := by
  simp only [Path.shown] at shown
  split at shown
  · cases shown
  · rw [← Option.some.inj shown]
    exact below.write_prefix inner

end Path

/-- The same value, or the same mismatch, whose path in place is none or starts at the place. -/
inductive Agrees (base : Path) (Like : α → β → Prop) : Except Fault α → Except Fault β → Prop where
  | ok {value : α} {result : β} (like : Like value result) :
    Agrees base Like (.ok value) (.ok result)
  | mismatch {path other : Option String} {cause : Mismatch}
      (placed : ∀ text, path = some text → base.write.toList <+: text.toList) :
    Agrees base Like (.error (.mismatch path cause)) (.error (.mismatch other cause))

theorem Agrees.placed {base : Path} {Like : α → β → Prop} {one : Except Fault α}
    {two : Except Fault β} (agrees : Agrees base Like one two) {path : Option String}
    (below : ∀ text, path = some text → base.write.toList <+: text.toList) (other : Option String) :
    Agrees base Like (one.mapError (Fault.placed path)) (two.mapError (Fault.placed other)) := by
  cases agrees with
  | ok like => exact .ok like
  | @mismatch own given cause placed =>
    -- Only a mismatch without a path gets one, in each of the two readings for itself.
    cases own with
    | none => cases given <;> exact .mismatch below
    | some text => cases given <;> exact .mismatch placed

/-- A reading in place and one alone, behind as many aliases or fewer. -/
def Apart (base : Path) (Like : α → β → Prop) (inPlace : Reading α) (alone : Reading β) : Prop :=
  ∀ files followed fewer, fewer ≤ followed →
    (inPlace files followed).Limited ∨
    (inPlace files followed).log = (alone files fewer).log ∧
    (alone files fewer).followed ≤ (inPlace files followed).followed ∧
    Agrees base Like (inPlace files followed).result (alone files fewer).result

namespace Apart

variable {base : Path} {Like : α → β → Prop} {Then : γ → δ → Prop}

protected theorem pure {value : α} {result : β} (like : Like value result) :
    Apart base Like (pure value) (pure result) :=
  fun _ _ _ fewer => .inr ⟨rfl, fewer, .ok like⟩

protected theorem mismatch (cause : Mismatch) :
    Apart base Like (Reading.mismatch cause) (Reading.mismatch cause) :=
  fun _ _ _ fewer => .inr ⟨rfl, fewer, .mismatch nofun⟩

protected theorem tooDeep {alone : Reading β} :
    Apart base Like (Reading.broken .tooDeep) alone :=
  fun _ _ _ _ => .inl ⟨.broken .tooDeep, rfl, rfl⟩

protected theorem follow (limit : Nat) :
    Apart base (fun _ _ => True) (Reading.follow limit) (Reading.follow limit) := by
  intro files followed fewer le
  by_cases left : followed < limit
  · have leftAlone : fewer < limit := Nat.lt_of_le_of_lt le left
    refine .inr ?_
    rw [Reading.follow, Reading.follow, if_pos left, if_pos leftAlone]
    exact ⟨rfl, Nat.succ_le_succ le, .ok trivial⟩
  · refine .inl ⟨.broken .tooManyAliases, ?_, rfl⟩
    rw [Reading.follow, if_neg left]

protected theorem bind {first : Reading α} {second : Reading β} {next : α → Reading γ}
    {after : β → Reading δ} (apart : Apart base Like first second)
    (goesOn : ∀ value result, Like value result → Apart base Then (next value) (after result)) :
    Apart base Then (first >>= next) (second >>= after) := by
  intro files followed fewer le
  have early := apart files followed fewer le
  cases found : first files followed with
  | mk result log later =>
  cases other : second files fewer with
  | mk otherResult lines last =>
  rw [found, other] at early
  cases result with
  | error fault =>
    rw [Reading.bind_at_error found]
    -- A limit reached in place ends it all, even where the reading alone goes on.
    rcases early with ⟨_, failed, isLimit⟩ | ⟨same, behind, agrees⟩
    · cases failed
      exact .inl ⟨fault, rfl, isLimit⟩
    · cases agrees with
      | mismatch placed =>
        rw [Reading.bind_at_error other]
        exact .inr ⟨same, behind, .mismatch placed⟩
  | ok value =>
    rcases early with ⟨_, failed, -⟩ | ⟨same, behind, agrees⟩
    · cases failed
    · cases agrees with
      | ok like =>
        rw [Reading.bind_at_ok found, Reading.bind_at_ok other]
        rcases goesOn _ _ like files _ _ behind with limited | ⟨more, fewest, agreesThen⟩
        · exact .inl limited
        · exact .inr ⟨congr (congrArg _ same) more, fewest, agreesThen⟩

theorem map {first : Reading α} {second : Reading β} (apart : Apart base Like first second)
    {f : α → γ} {g : β → δ}
    (carries : ∀ value result, Like value result → Then (f value) (g result)) :
    Apart base Then (f <$> first) (g <$> second) := by
  rw [map_eq_pure_bind, map_eq_pure_bind]
  exact apart.bind fun value result like => .pure (carries value result like)

/-- A mismatch gets a path from the place or below. -/
theorem placed {first : Reading α} {second : Reading β} (apart : Apart base Like first second)
    {path : Option String} (below : ∀ text, path = some text → base.write.toList <+: text.toList)
    (other : Option String) :
    Apart base Like (first.onFault (Fault.placed path)) (second.onFault (Fault.placed other)) := by
  intro files followed fewer le
  simp only [Reading.onFault]
  rcases apart files followed fewer le with limited | ⟨lines, fewerThen, agrees⟩
  · exact .inl (limited.placed path)
  · exact .inr ⟨lines, fewerThen, agrees.placed below other⟩

end Apart

end Yaml

end KvTables
