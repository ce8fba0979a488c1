import KvTables.Proofs.Creators.Uses
import Mathlib.Data.List.Forall2

/-! What reaches a provider.

A provider of any kind can be made to note what it is asked for and what it answers. Over a run of
requests it notes one construction for each request whose config is of the right kind, in order.
-/

set_option autoImplicit false

namespace KvTables

open Backend

variable {ι σ Table : Type}

abbrev Noted (Table : Type) : Type := Construction × Except Failure Table

def Provider.noting (provider : Provider σ Table) : Provider (σ × List (Noted Table)) Table :=
  ⟨fun construction memory =>
    let answered := provider.construct construction memory.1
    (answered.1, answered.2, memory.2 ++ [(construction, answered.1)])⟩

namespace Creator

/-- What a creator may have noted for one call, and what it returns. -/
inductive Settles : Creator → Call → List (Noted Table) → Except Failure Table → Prop where
  | cuckoo {stored : Option Config} {last : Option Call} {call : Call}
      (answer : Except Failure Table) :
    Settles (.cuckoo stored last) call [(.cuckoo call.args call.override, answer)] answer
  | redis {stored : Option Config} {call : Call} {config : Redis}
      (effective : call.override.or stored = some (.redis config)) (answer : Except Failure Table) :
    Settles (.redis stored) call
      [(.redis { call.args with initSize := none } config, answer)] answer
  | rocksDb {stored : Option Config} {call : Call} {config : RocksDb}
      (effective : call.override.or stored = some (.rocksDb config))
      (answer : Except Failure Table) :
    Settles (.rocksDb stored) call
      [(.rocksDb { call.args with initSize := none } config, answer)] answer
  | notRedis {stored : Option Config} {call : Call}
      (effective : ∀ config, call.override.or stored ≠ some (.redis config)) :
    Settles (.redis stored) call []
      (.error (.wrongConfig .redis ((call.override.or stored).map Config.kind)))
  | notRocksDb {stored : Option Config} {call : Call}
      (effective : ∀ config, call.override.or stored ≠ some (.rocksDb config)) :
    Settles (.rocksDb stored) call []
      (.error (.wrongConfig .rocksDb ((call.override.or stored).map Config.kind)))

/-- Only the stored config and the kind decide how a call is settled. -/
theorem settles_record {creator : Creator} {call : Call} {noted : List (Noted Table)}
    {answer : Except Failure Table} (earlier : Call) :
    (creator.record earlier).Settles call noted answer ↔ creator.Settles call noted answer := by
  cases creator with
  | cuckoo stored last =>
    constructor
    · intro settles
      cases settles
      exact .cuckoo answer
    · intro settles
      cases settles
      exact .cuckoo answer
  | redis stored => exact Iff.rfl
  | rocksDb stored => exact Iff.rfl

theorem settles_of_ok {creator : Creator} {call : Call} {construction : Construction}
    (asked : creator.construction call = .ok construction) (answer : Except Failure Table) :
    creator.Settles call [(construction, answer)] answer := by
  unfold Creator.construction at asked
  dsimp only at asked
  split at asked
  · cases asked
    exact .cuckoo answer
  · next stored config effective =>
    cases asked
    exact .redis effective answer
  · next stored config effective =>
    cases asked
    exact .rocksDb effective answer
  · cases asked
  · cases asked

theorem settles_of_error {creator : Creator} {call : Call} {failure : Failure}
    (refused : creator.construction call = .error failure) :
    creator.Settles call ([] : List (Noted Table)) (.error failure) := by
  unfold Creator.construction at refused
  dsimp only at refused
  split at refused
  · cases refused
  · cases refused
  · cases refused
  · next stored other different =>
    cases refused
    exact .notRedis fun config effective => different config effective
  · next stored other different =>
    cases refused
    exact .notRocksDb fun config effective => different config effective

theorem settles_noting (creator : Creator) (provider : Provider σ Table) (call : Call)
    (memory : σ) (before : List (Noted Table)) :
    ∃ noted, creator.Settles call noted
        (creator.settled provider.noting call (memory, before) (creator.construction call)).result ∧
      (creator.settled provider.noting call (memory, before)
        (creator.construction call)).state.2 = before ++ noted := by
  cases asked : creator.construction call with
  | ok construction => exact ⟨_, settles_of_ok asked _, rfl⟩
  | error failure => exact ⟨[], settles_of_error asked, (List.append_nil before).symm⟩

end Creator

structure Request (ι : Type) where
  name : ι
  direct : Bool
  call : Call

namespace Request

def use (provider : Provider σ Table) (request : Request ι) : Use ι σ Table :=
  .create request.name request.direct provider request.call

variable [DecidableEq ι]

theorem settles_update (creators : ι → Creator) (asked name : ι) (earlier call : Call)
    {noted : List (Noted Table)} {answer : Except Failure Table} :
    (Function.update creators asked ((creators asked).record earlier) name).Settles call noted
        answer ↔ (creators name).Settles call noted answer := by
  by_cases same : name = asked
  · subst same
    rw [Function.update_self]
    exact Creator.settles_record earlier
  · rw [Function.update_of_ne same]

/-- Each request is settled as it would be had it come first; the notes are lined up. -/
theorem run_settles (provider : Provider σ Table) (requests : List (Request ι))
    (state : Use.State ι (σ × List (Noted Table))) :
    ∃ settled : List (List (Noted Table) × Except Failure Table),
      List.Forall₂ (fun request one =>
        (state.creators request.name).Settles request.call one.1 one.2) requests settled ∧
      (Use.run (requests.map (use provider.noting)) state).value.1 =
        settled.map (fun one => .table one.2) ∧
      (Use.run (requests.map (use provider.noting)) state).value.2.memory.2 =
        state.memory.2 ++ (settled.map (·.1)).flatten := by
  induction requests generalizing state with
  | nil => exact ⟨[], .nil, rfl, (List.append_nil _).symm⟩
  | cons request rest ih =>
    obtain ⟨creators, memory, before⟩ := state
    obtain ⟨noted, first, notes⟩ := (creators request.name).settles_noting provider request.call
      memory before
    rw [← Creator.createVia_value request.direct] at first notes
    rw [List.map_cons, Use.run_cons, use, Use.step_create]
    obtain ⟨settled, later, answers, others⟩ := ih
      ⟨Function.update creators request.name ((creators request.name).record request.call),
        ((creators request.name).createVia request.direct provider.noting request.call
          (memory, before)).value.state⟩
    -- What was recorded on the way does not matter to later requests.
    have alike := later.imp fun _ _ => (settles_update creators request.name _ request.call _).1
    refine ⟨(noted, _) :: settled, .cons first alike, ?_, ?_⟩
    · exact congrArg _ answers
    · rw [others]
      simp only [notes, List.map_cons, List.flatten_cons, List.append_assoc]

/-- Over any run of requests, on any creators and with any provider, what the provider is asked for
is what the requests lead to one by one, and what each returns is the answer noted for it, or the
refusal, which names both types. -/
theorem constructions_of_run (creators : ι → Creator) (provider : Provider σ Table) (memory : σ)
    (requests : List (Request ι)) :
    let ran := (Use.run (requests.map (use provider.noting)) ⟨creators, (memory, [])⟩).value
    (∃ settled : List (List (Noted Table) × Except Failure Table),
      List.Forall₂ (fun request one =>
        (creators request.name).Settles request.call one.1 one.2) requests settled ∧
      ran.1 = settled.map (fun one => .table one.2) ∧
      ran.2.memory.2 = (settled.map (·.1)).flatten) ∧
    ∀ (expected : Kind) (effective : Option Config),
      (Failure.wrongConfig expected (effective.map Config.kind)).message =
        "config should be instance of '" ++
          (match expected with
            | .cuckoo => "CuckooHashTableConfig"
            | .redis => "RedisTableConfig"
            | .rocksDb => "RocksDbTableConfig") ++
          "', but got '" ++
          (match effective with
            | none => "None"
            | some (.cuckoo _) => "CuckooHashTableConfig"
            | some (.redis _) => "RedisTableConfig"
            | some (.rocksDb _) => "RocksDbTableConfig") ++
          "'" := by
  refine ⟨run_settles provider requests ⟨creators, (memory, [])⟩, fun expected effective => ?_⟩
  rcases effective with _ | _ | _ | _ <;> cases expected <;> rfl

end Request

end KvTables
