import KvTables.Proofs.Entries.Unopened
import KvTables.Session

/-! What is built does not look at its surroundings again.

Files and variables may change at any time. Steps that open no file are answered from what is stored,
and what they store is the same whatever the files and variables hold by then.
-/

set_option autoImplicit false

namespace KvTables.Session

open Backend

structure Stored where
  factories : Sorted Factory
  creators : Sorted Creator
  calls : List Construction

def Stored.among (stored : Stored) (files : Files) (environment : Environment) : State :=
  ⟨files, environment, stored.factories, stored.creators, stored.calls⟩

def Stored.factory (stored : Stored) (name : String) : Factory :=
  (stored.factories.get? name).getD Factory.empty

def State.stored (state : State) : Stored := ⟨state.factories, state.creators, state.calls⟩

namespace Step

def isChange : Step → Bool
  | .writeFile _ _ | .removeFile _ | .setVariable _ _ | .unsetVariable _ => true
  | _ => false

/-- Steps on what is stored, with references and configs that load no file. -/
inductive Inward : Step → Prop where
  | ids (factory : String) : Inward (.ids factory)
  | resolve (factory : String) {reference : Json.Value}
    (unopened : ¬ Config.Loads Reference.tags reference.json) : Inward (.resolve factory reference)
  | isVolatile (factory : String) {reference : Json.Value}
    (unopened : ¬ Config.Loads Reference.tags reference.json) : Inward (.isVolatile factory reference)
  | factoryCreator (factory : String) {reference : Json.Value}
    (unopened : ¬ Config.Loads Reference.tags reference.json) (as : String) :
    Inward (.factoryCreator factory reference as)
  | creator (via : Via) {config : Option Json.Value}
    (unopened : ∀ value ∈ config, ¬ Config.Loads Config.tags value.json) (as : String) :
    Inward (.creator via config as)
  | create {request : CreateRequest}
    (unopened : ∀ value ∈ request.override, ¬ Config.Loads Config.tags value.json) :
    Inward (.create request)
  | clone (creator as : String) : Inward (.clone creator as)
  | info (creator : String) : Inward (.info creator)
  | exportConfig (creator : String) : Inward (.exportConfig creator)
  | calls : Inward .calls

theorem Inward.not_isChange {step : Step} (inward : step.Inward) : step.isChange = false := by
  cases inward <;> rfl

end Step

/-- A response that is the same in all surroundings, and leaves them and the factories alone. -/
def Detached (stored : Stored) (respond : Files → Environment → Result) : Prop :=
  ∃ (answer : Except Refusal Answer) (later : Stored) (log : List Log.Line),
    later.factories = stored.factories ∧
    ∀ files environment, respond files environment = ⟨(answer, later.among files environment), log⟩

namespace Detached

variable {α : Type} {stored : Stored}

theorem answer (later : Stored) (kept : later.factories = stored.factories) (answer : Answer) :
    Detached stored fun files environment => (later.among files environment).answer answer :=
  ⟨.ok answer, later, [], kept, fun _ _ => rfl⟩

theorem refuse (later : Stored) (kept : later.factories = stored.factories) (refusal : Refusal) :
    Detached stored fun files environment => (later.among files environment).refuse refusal :=
  ⟨.error refusal, later, [], kept, fun _ _ => rfl⟩

theorem logged (written : List Log.Line) {respond : Files → Environment → Result}
    (detached : Detached stored respond) :
    Detached stored fun files environment =>
      ⟨(respond files environment).value, written ++ (respond files environment).log⟩ := by
  obtain ⟨answer, later, log, kept, same⟩ := detached
  refine ⟨answer, later, written ++ log, kept, fun files environment => ?_⟩
  simp only [same]

theorem bind (first : Logged α) (next : α → Files → Environment → Result)
    (detached : Detached stored (next first.value)) :
    Detached stored fun files environment => first >>= fun value => next value files environment :=
  logged first.log detached

theorem proceed (computed : Logged (Except Failure α)) {next : α → Files → Environment → Result}
    (detached : ∀ value, Detached stored (next value)) :
    Detached stored fun files environment =>
      (stored.among files environment).proceed computed fun value => next value files environment := by
  obtain ⟨failure | value, log⟩ := computed
  · exact logged log (refuse stored rfl (.failure failure))
  · exact logged log (detached value)

theorem proceedJson {reading : Reading α} (settled : reading.Settled)
    {next : α → Files → Environment → Result} (detached : ∀ value, Detached stored (next value)) :
    Detached stored fun files environment =>
      (stored.among files environment).proceedJson reading fun value => next value files environment := by
  obtain ⟨value, rfl⟩ | ⟨fault, rfl⟩ := settled.pure_or_fail
  · exact logged [] (detached value)
  · exact refuse stored rfl (.json fault)

theorem withCreator (name : String) {next : Creator → Files → Environment → Result}
    (detached : ∀ creator, Detached stored (next creator)) :
    Detached stored fun files environment =>
      (stored.among files environment).withCreator name fun creator => next creator files environment := by
  simp only [State.withCreator, Stored.among]
  cases stored.creators.get? name with
  | none => exact refuse stored rfl (.noCreator name)
  | some creator => exact detached creator

theorem storeCreator (name : String) (creator : Creator) :
    Detached stored fun files environment =>
      (stored.among files environment).storeCreator name creator :=
  answer { stored with creators := stored.creators.insert name creator } rfl (.creator creator)

section

variable {σ Product : Type} {keep : σ → State → State} (kept : σ → Stored → Stored)
  (keeps : ∀ memory (later : Stored) files environment,
    keep memory (later.among files environment) = (kept memory later).among files environment)
  (factories : ∀ memory (later : Stored), (kept memory later).factories = later.factories)
  (deliver : Product → Table)

include keeps factories

theorem created (name : String) (made : Logged (Created σ Product)) :
    Detached stored fun files environment => made >>= fun created =>
      let state := keep created.state
        { stored.among files environment with creators := stored.creators.insert name created.creator }
      match created.result with
      | .ok product => state.answer (.table (deliver product))
      | .error failure => state.refuse (.failure failure) := by
  obtain ⟨⟨result, creator, memory⟩, log⟩ := made
  let entered : Stored := { stored with creators := stored.creators.insert name creator }
  have same : (kept memory entered).factories = stored.factories := factories memory entered
  cases result with
  | ok product =>
    have answered := answer (kept memory entered) same (.table (deliver product))
    simp only [← keeps] at answered
    exact logged log answered
  | error failure =>
    have refused := refuse (kept memory entered) same (.failure failure)
    simp only [← keeps] at refused
    exact logged log refused

/-- A creation is answered by the provider, which sees none of the surroundings. -/
theorem createWith (request : CreateRequest) (creator : Creator) (call : Call)
    (provider : Provider σ Product) (memory : σ) :
    Detached stored fun files environment =>
      (stored.among files environment).createWith request creator call provider memory keep deliver := by
  simp only [State.createWith]
  split
  · exact created kept keeps factories deliver _ (creator.createDirectly provider call memory)
  · exact created kept keeps factories deliver _ (creator.create provider call memory)

end

end Detached

theorem settled_readOverride {override : Option Json.Value}
    (unopened : ∀ value ∈ override, ¬ Config.Loads Config.tags value.json) :
    (State.create.readOverride override).Settled := by
  cases override with
  | none => exact .pure none
  | some value => exact (Config.settled value.canonical (unopened value rfl)).map some

/-- A step on what is stored is answered alike in all surroundings. -/
theorem Step.Inward.detached {step : Step} (inward : step.Inward) (stored : Stored) :
    Detached stored fun files environment => (stored.among files environment).step step := by
  cases inward with
  | ids factory => exact .answer stored rfl (.ids (stored.factory factory).ids)
  | @resolve factory value unopened =>
    have settled := Reference.settled value.canonical unopened
    refine .proceedJson settled fun reference => ?_
    exact .proceed (pure ((stored.factory factory).resolve reference)) fun config =>
      .answer stored rfl (.config config)
  | @isVolatile factory value unopened =>
    have settled := Reference.settled value.canonical unopened
    refine .proceedJson settled fun reference => ?_
    exact .bind ((stored.factory factory).isVolatile reference)
      (fun flag files environment => (stored.among files environment).answer (.flag flag))
      (.answer stored rfl (.flag _))
  | @factoryCreator factory value unopened as =>
    have settled := Reference.settled value.canonical unopened
    refine .proceedJson settled fun reference => ?_
    exact .proceed ((stored.factory factory).creator reference) (.storeCreator as)
  | @creator via config unopened as =>
    refine .proceedJson (settled_readOverride unopened) fun config => ?_
    exact .storeCreator as _
  | @create request unopened =>
    refine .proceed (pure request.args.resolve) fun args => ?_
    refine .proceedJson (settled_readOverride unopened) fun override => ?_
    refine .withCreator request.creator fun creator => ?_
    cases request.engine with
    | recording =>
      exact .createWith (fun calls later => { later with calls }) (fun _ _ _ _ => rfl)
        (fun _ _ => rfl) .handle request creator ⟨args, override⟩ Provider.recording stored.calls
    | _ =>
      exact .createWith (fun _ later => later) (fun _ _ _ _ => rfl) (fun _ _ => rfl) _ request creator
        ⟨args, override⟩ _ ()
  | clone creator as => exact .withCreator creator (.storeCreator as)
  | info creator => exact .withCreator creator fun creator => .answer stored rfl (.creator creator)
  | exportConfig creator =>
    exact .withCreator creator fun creator => .proceed creator.exportConfig fun params =>
      .answer stored rfl (.exported params)
  | calls => exact .answer stored rfl (.calls stored.calls)

theorem Step.change_among {step : Step} (change : step.isChange = true) (stored : Stored) (files : Files)
    (environment : Environment) : ∃ files' environment',
      ((stored.among files environment).step step).value.2 = stored.among files' environment' := by
  cases step with
  | writeFile path entry => exact ⟨_, _, rfl⟩
  | removeFile path => exact ⟨_, _, rfl⟩
  | setVariable name value => exact ⟨_, _, rfl⟩
  | unsetVariable name => exact ⟨_, _, rfl⟩
  | _ => cases change

/-- What the steps that are no changes are answered, each with the lines it wrote. -/
def told (steps : List Step) (state : State) : List (Logged (Except Refusal Answer)) :=
  ((steps.zip (run steps state)).filter fun taken => !taken.1.isChange).map (·.2)

def after (steps : List Step) (state : State) : State :=
  steps.foldl (fun state step => (state.step step).value.2) state

section

variable {step : Step} (rest : List Step) (state : State)

theorem told_cons_change (change : step.isChange = true) :
    told (step :: rest) state = told rest (state.step step).value.2 := by
  simp [told, run, change]

theorem told_cons (other : step.isChange = false) :
    told (step :: rest) state =
      (state.step step).map (·.1) :: told rest (state.step step).value.2 := by
  simp [told, run, other]

end

/-- Steps that change the surroundings, or look at nothing but what is stored. -/
def LooksInward (steps : List Step) : Prop := ∀ step ∈ steps, step.isChange = true ∨ step.Inward

/-- Changes of the surroundings can be left out, and the surroundings can be others from the start. -/
theorem told_among {steps : List Step} (inward : LooksInward steps) (stored : Stored)
    (files others : Files) (environment surroundings : Environment) :
    let lasting := steps.filter fun step => !step.isChange
    told steps (stored.among files environment) = told lasting (stored.among others surroundings) ∧
    (after steps (stored.among files environment)).stored =
      (after lasting (stored.among others surroundings)).stored ∧
    (after steps (stored.among files environment)).factories = stored.factories := by
  induction steps generalizing stored files others environment surroundings with
  | nil => exact ⟨rfl, rfl, rfl⟩
  | cons step rest ih =>
    have later := ih fun step member => inward step (List.mem_cons_of_mem _ member)
    intro lasting
    -- A change leads to other surroundings, so the induction is about all of them.
    obtain change | within := inward step List.mem_cons_self
    · obtain ⟨changed, set, same⟩ := Step.change_among change stored files environment
      have dropped : lasting = rest.filter fun step => !step.isChange := by simp [lasting, change]
      rw [dropped, told_cons_change rest _ change]
      simp only [after, List.foldl_cons, same]
      exact later stored changed others set surroundings
    · obtain ⟨answer, next, log, kept, same⟩ := within.detached stored
      have stays : lasting = step :: rest.filter fun step => !step.isChange := by
        simp [lasting, within.not_isChange]
      obtain ⟨answers, states, factories⟩ := later next files others environment surroundings
      rw [stays, told_cons rest _ within.not_isChange, told_cons _ _ within.not_isChange]
      simp only [after, List.foldl_cons, same]
      exact ⟨congrArg _ answers, states, factories.trans kept⟩

/-- Two sessions with the same things stored are told the same, whatever changes around them. -/
theorem told_agree (stored : Stored) (files others : Files) (environment surroundings : Environment)
    (steps moves : List Step) (inward : LooksInward steps)
    (inwardMoves : LooksInward moves)
    (same : (steps.filter fun step => !step.isChange) = moves.filter fun step => !step.isChange) :
    told steps (stored.among files environment) = told moves (stored.among others surroundings) ∧
    (after steps (stored.among files environment)).stored =
      (after moves (stored.among others surroundings)).stored ∧
    (after steps (stored.among files environment)).factories = stored.factories := by
  obtain ⟨answers, states, factories⟩ :=
    told_among inward stored files files environment environment
  obtain ⟨answersMoves, statesMoves, -⟩ :=
    told_among inwardMoves stored others files surroundings environment
  rw [same] at answers states
  exact ⟨answers.trans answersMoves.symm, states.trans statesMoves.symm, factories⟩

def loaded : Stored :=
  ⟨Sorted.empty.insert "f" ⟨Sorted.empty.insert "a" (.rocksDb ⟨RocksDb.storedParams⟩)⟩, Sorted.empty, []⟩

/-- The file is removed and a variable set before the backend is asked for and copied. -/
theorem told_agree_loaded :
    let reference : Json.Value := .ofJson (.str "a")
    let steps : List Step := [.resolve "f" reference, .factoryCreator "f" reference "c", .clone "c" "d"]
    let moves : List Step := [.removeFile RocksDb.standardPath, .resolve "f" reference,
      .setVariable "V" (.text "x"), .factoryCreator "f" reference "c", .clone "c" "d"]
    let here := loaded.among RocksDb.storedFiles Environment.initial
    let elsewhere := loaded.among Files.initial Environment.initial
    (LooksInward steps ∧ LooksInward moves ∧
      (steps.filter fun step => !step.isChange) = moves.filter fun step => !step.isChange) ∧
    told steps here = told moves elsewhere ∧ (after steps here).stored = (after moves elsewhere).stored ∧
    (told steps here).head? =
      some (Logged.silent (.ok (.config (.rocksDb ⟨RocksDb.storedParams⟩)))) := by
  intro reference steps moves here elsewhere
  have named : ¬ Config.Loads Reference.tags reference.json := nofun
  have resolve : Step.Inward (.resolve "f" reference) := .resolve "f" named
  have build : Step.Inward (.factoryCreator "f" reference "c") := .factoryCreator "f" named "c"
  have inward : LooksInward steps := by
    simp only [LooksInward, steps, List.forall_mem_cons]
    exact ⟨.inr resolve, .inr build, .inr (.clone "c" "d"), List.forall_mem_nil _⟩
  have inwardMoves : LooksInward moves := by
    simp only [LooksInward, moves, List.forall_mem_cons]
    exact ⟨.inl rfl, .inr resolve, .inl rfl, .inr build, .inr (.clone "c" "d"), List.forall_mem_nil _⟩
  have same : (steps.filter fun step => !step.isChange) = moves.filter fun step => !step.isChange := rfl
  obtain ⟨answers, states, -⟩ := told_agree loaded RocksDb.storedFiles Files.initial
    Environment.initial Environment.initial steps moves inward inwardMoves same
  exact ⟨⟨inward, inwardMoves, same⟩, answers, states, rfl⟩

end KvTables.Session
