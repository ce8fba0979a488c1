import KvTables.Table.Creator
import Mathlib.Logic.Function.Basic

/-! Creators in use.

Creators are stored under names. They are made, cloned, asked for tables, each time of a provider of
the caller's choice, and asked for their parameters. The providers share one memory.
-/

set_option autoImplicit false

namespace KvTables

open Backend

variable {ι σ Table : Type}

namespace Creator

def createVia (direct : Bool) (creator : Creator) (provider : Provider σ Table) (call : Call)
    (memory : σ) : Logged (Created σ Table) :=
  if direct then creator.createDirectly provider call memory
  else creator.create provider call memory

-- What both ways of creating a table lead to, logs aside, once it is known whether the provider is
-- asked. The call is on record in either case.
def settled (creator : Creator) (provider : Provider σ Table) (call : Call) (memory : σ) :
    Except Failure Construction → Created σ Table
  | .error failure => ⟨.error failure, creator.record call, memory⟩
  | .ok construction =>
    ⟨(provider.construct construction memory).1, creator.record call,
      (provider.construct construction memory).2⟩

theorem createDirectly_value (creator : Creator) (provider : Provider σ Table) (call : Call)
    (memory : σ) :
    (creator.createDirectly provider call memory).value =
      creator.settled provider call memory (creator.construction call) := by
  unfold createDirectly
  cases creator.construction call <;> rfl

/-- The two ways differ in what they log. -/
theorem createVia_value (direct : Bool) (creator : Creator) (provider : Provider σ Table)
    (call : Call) (memory : σ) :
    (creator.createVia direct provider call memory).value =
      creator.settled provider call memory (creator.construction call) := by
  cases direct with
  | true => exact createDirectly_value creator provider call memory
  | false =>
    rw [← createDirectly_value, createVia, if_neg Bool.false_ne_true, create]
    split <;> rfl

theorem createVia_creator (direct : Bool) (creator : Creator) (provider : Provider σ Table)
    (call : Call) (memory : σ) :
    (creator.createVia direct provider call memory).value.creator = creator.record call := by
  rw [createVia_value]
  cases creator.construction call <;> rfl

end Creator

inductive Use (ι σ Table : Type) where
  | make (name : ι) (kind : Kind) (config : Option Config)
  | clone (original copy : ι)
  | create (name : ι) (direct : Bool) (provider : Provider σ Table) (call : Call)
  | exportConfig (name : ι)

namespace Use

inductive Answer (Table : Type) where
  | stored
  | table (result : Except Failure Table)
  | exported (result : Except Failure Json.Object)

structure State (ι σ : Type) where
  creators : ι → Creator
  memory : σ

def changes : Use ι σ Table → Option ι
  | .make name _ _ => some name
  | .clone _ copy => some copy
  | .create name _ _ _ => some name
  | .exportConfig _ => none

variable [DecidableEq ι]

def State.store (state : State ι σ) (name : ι) (creator : Creator) : State ι σ :=
  { state with creators := Function.update state.creators name creator }

def step (state : State ι σ) : Use ι σ Table → Logged (Answer Table × State ι σ)
  | .make name kind config => pure (.stored, state.store name (.ofKind kind config))
  | .clone original copy => pure (.stored, state.store copy (state.creators original))
  | .create name direct provider call => do
    let created ← (state.creators name).createVia direct provider call state.memory
    pure (.table created.result, { state.store name created.creator with memory := created.state })
  | .exportConfig name => do
    let params ← (state.creators name).exportConfig
    pure (.exported params, state)

def run : List (Use ι σ Table) → State ι σ → Logged (List (Answer Table) × State ι σ)
  | [], state => pure ([], state)
  | use :: rest, state => do
    let (answer, state) ← step state use
    let (answers, state) ← run rest state
    pure (answer :: answers, state)

theorem run_cons (use : Use ι σ Table) (rest : List (Use ι σ Table)) (state : State ι σ) :
    (run (use :: rest) state).value =
      ((step state use).value.1 :: (run rest (step state use).value.2).value.1,
        (run rest (step state use).value.2).value.2) := rfl

theorem step_create (state : State ι σ) (name : ι) (direct : Bool) (provider : Provider σ Table)
    (call : Call) :
    (step state (.create name direct provider call)).value =
      (.table ((state.creators name).createVia direct provider call state.memory).value.result,
        ⟨Function.update state.creators name ((state.creators name).record call),
          ((state.creators name).createVia direct provider call state.memory).value.state⟩) := by
  rw [← Creator.createVia_creator direct (state.creators name) provider call state.memory]
  rfl

/-- A use changes one creator at most. -/
theorem step_other (state : State ι σ) (use : Use ι σ Table) {name : ι}
    (other : use.changes ≠ some name) :
    (step state use).value.2.creators name = state.creators name := by
  cases use with
  | exportConfig asked => rfl
  | make made kind config =>
    have different : name ≠ made := fun same => other (congrArg some same.symm)
    exact Function.update_of_ne different _ _
  | clone original copy =>
    have different : name ≠ copy := fun same => other (congrArg some same.symm)
    exact Function.update_of_ne different _ _
  | create asked direct provider call =>
    have different : name ≠ asked := fun same => other (congrArg some same.symm)
    exact Function.update_of_ne different _ _

theorem run_others (uses : List (Use ι σ Table)) (state : State ι σ) {name : ι}
    (others : ∀ use ∈ uses, use.changes ≠ some name) :
    (run uses state).value.2.creators name = state.creators name := by
  induction uses generalizing state with
  | nil => rfl
  | cons use rest ih =>
    have first := step_other state use (others use List.mem_cons_self)
    have later := ih (step state use).value.2 fun use member =>
      others use (List.mem_cons_of_mem _ member)
    rw [run_cons]
    exact later.trans first

end Use

end KvTables
