import KvTables.Form
import KvTables.Table.Factory

/-! Sessions: factories and creators under names, among files and variables that may change.

Each step is answered in the state that the steps before it left. A step that is refused leaves what
is stored as it was.
-/

set_option autoImplicit false

namespace KvTables

open Backend

namespace Session

structure State where
  files : Files
  environment : Environment
  factories : Sorted Factory
  creators : Sorted Creator
  /-- What the recording provider has noted. -/
  calls : List Construction

def State.initial (files : Files) (environment : Environment) : State :=
  ⟨files, environment, Sorted.empty, Sorted.empty, []⟩

inductive Refusal where
  | failure (cause : Failure)
  | json (cause : Fault)
  | yaml (cause : Fault)
  | noCreator (name : String)

inductive Format where
  | json | value | yaml
  deriving DecidableEq, Repr

structure ArgsRequest where
  keyDType : String
  valueDType : String
  defaultValue : Option DefaultValue
  name : Option String
  checkpoint : Option Bool
  initSize : Option UInt64

def ArgsRequest.resolve (request : ArgsRequest) : Except Failure TableArgs := do
  let keyDType ← DType.ofName request.keyDType
  let valueDType ← DType.ofName request.valueDType
  return ⟨keyDType, valueDType, request.defaultValue, request.name, request.checkpoint,
    request.initSize⟩

inductive Via where
  /-- The one for the config's kind. -/
  | config
  /-- The one for a config that is known to be of its kind. -/
  | own
  /-- One of a given kind, whatever the config. -/
  | kind (kind : Kind)
  | newCuckoo
  deriving DecidableEq, Repr

inductive Engine where
  | spec | bare | rocksDbOnly | recording
  | failing (message : String) (context : Option String)
  deriving DecidableEq, Repr

structure CreateRequest where
  creator : String
  args : ArgsRequest
  override : Option Json.Value
  engine : Engine
  /-- Whether the key type is left unchecked. -/
  direct : Bool

structure RedisRequest where
  fromVariable : Bool
  path : Option String
  envName : Option String

inductive Step where
  | constants
  | dtype (text : String)
  | parse (form : Form) (format : Format) (text : String)
  | args (request : ArgsRequest)
  | redis (request : RedisRequest)
  | rocksDbFromPath (path : String)
  | rocksDbStandard
  | rocksDbFromValue (text : String)
  | rocksDbFromParams (text : String)
  | writeFile (path : String) (entry : Entry)
  | removeFile (path : String)
  | setVariable (name : String) (value : Variable)
  | unsetVariable (name : String)
  | factoryOfList (backends : Json.Value) (as : String)
  | factoryOfText (text : String) (as : String)
  | factoryOfFile (path : String) (as : String)
  | ids (factory : String)
  | resolve (factory : String) (reference : Json.Value)
  | isVolatile (factory : String) (reference : Json.Value)
  | factoryCreator (factory : String) (reference : Json.Value) (as : String)
  | creator (via : Via) (config : Option Json.Value) (as : String)
  | clone (creator : String) (as : String)
  | info (creator : String)
  | exportConfig (creator : String)
  | create (request : CreateRequest)
  | calls

inductive Table where
  | spec (spec : TableSpec)
  | rocksDb (args : TableArgs) (config : RocksDb)
  | handle (number : Nat)

inductive Answer where
  | done
  | constants
  | dtype (dtype : DType)
  | parsed (form : Form) (value : form.Value) (stable : Bool)
  | args (args : TableArgs)
  | redis (config : Redis)
  | rocksDb (config : RocksDb)
  | ids (ids : List String)
  | config (config : Config)
  | flag (value : Bool)
  | creator (creator : Creator)
  | exported (params : Json.Object)
  | table (table : Table)
  | calls (calls : List Construction)

abbrev Result : Type := Logged (Except Refusal Answer × State)

namespace State

def answer (state : State) (answer : Answer) : Result := pure (.ok answer, state)

def refuse (state : State) (refusal : Refusal) : Result := pure (.error refusal, state)

/-- Go on with a computation's value, or refuse the step with its failure. -/
def proceed {α : Type} (state : State) (computed : Logged (Except Failure α)) (next : α → Result) :
    Result := do
  match ← computed with
  | .ok value => next value
  | .error failure => state.refuse (.failure failure)

def proceedJson {α : Type} (state : State) (reading : Reading α) (next : α → Result) : Result := do
  match ← reading.run state.files with
  | .ok value => next value
  | .error fault => state.refuse (.json fault)

def factory (state : State) (name : String) : Factory :=
  (state.factories.get? name).getD Factory.empty

def withCreator (state : State) (name : String) (next : Creator → Result) : Result :=
  match state.creators.get? name with
  | some creator => next creator
  | none => state.refuse (.noCreator name)

def storeFactory (state : State) (name : String) (factory : Factory) : Result :=
  { state with factories := state.factories.insert name factory }.answer (.ids factory.ids)

def storeCreator (state : State) (name : String) (creator : Creator) : Result :=
  { state with creators := state.creators.insert name creator }.answer (.creator creator)

def value (text : String) : Reading Json.Value :=
  match Json.ofText text with
  | .ok json => pure (.ofJson json)
  | .error cause => Reading.broken cause

def parse (state : State) (form : Form) (format : Format) (text : String) : Result := do
  let reading := match format with
    | .json => form.readText text
    | .value => do form.readValue (← value text)
    | .yaml => form.readYaml text
  match ← reading.run state.files with
  | .ok value => state.answer (.parsed form value (form.isStable value state.files))
  | .error fault =>
    state.refuse (match format with
      | .yaml => .yaml fault
      | _ => .json fault)

def createWith {σ Product : Type} (state : State) (request : CreateRequest) (creator : Creator)
    (call : Call) (provider : Provider σ Product) (memory : σ) (keep : σ → State → State)
    (deliver : Product → Table) : Result := do
  let created ←
    if request.direct then creator.createDirectly provider call memory
    else creator.create provider call memory
  let stored := { state with creators := state.creators.insert request.creator created.creator }
  let state := keep created.state stored
  match created.result with
  | .ok product => state.answer (.table (deliver product))
  | .error failure => state.refuse (.failure failure)

def create (state : State) (request : CreateRequest) : Result :=
  state.proceed (pure request.args.resolve) fun args =>
  state.proceedJson (readOverride request.override) fun override =>
  state.withCreator request.creator fun creator =>
  let create {σ Product : Type} := @createWith σ Product state request creator ⟨args, override⟩
  match request.engine with
  | .spec => create Provider.spec () (fun _ state => state) .spec
  | .bare => create Provider.bare () (fun _ state => state) .handle
  | .rocksDbOnly =>
    create Provider.rocksDbOnly () (fun _ state => state) fun (args, config) => .rocksDb args config
  | .recording =>
    create Provider.recording state.calls (fun calls state => { state with calls }) .handle
  | .failing message context =>
    create (Provider.failing message context) () (fun _ state => state) .handle
where
  readOverride : Option Json.Value → Reading (Option Config)
    | none => pure none
    | some value => some <$> Config.read value.json

def redisConfig (request : RedisRequest) : Redis :=
  let config := if request.fromVariable then Redis.fromStandardVariable else Redis.standard
  let config := match request.path with
    | some path => config.withPath path
    | none => config
  match request.envName with
  | some name => config.withVariable name
  | none => config

def step (state : State) : Step → Result
  | .constants => state.answer .constants
  | .dtype text => state.proceed (pure (DType.ofName text)) fun dtype => state.answer (.dtype dtype)
  | .parse form format text => state.parse form format text
  | .args request => state.proceed (pure request.resolve) fun args => state.answer (.args args)
  | .redis request => state.answer (.redis (redisConfig request))
  | .rocksDbFromPath path =>
    state.proceed (RocksDb.fromPath path state.files) fun config => state.answer (.rocksDb config)
  | .rocksDbStandard =>
    state.proceed (RocksDb.loadStandard state.files) fun config => state.answer (.rocksDb config)
  | .rocksDbFromValue text =>
    state.proceedJson (value text) fun source =>
    state.proceed (RocksDb.fromValue source state.files) fun config => state.answer (.rocksDb config)
  | .rocksDbFromParams text =>
    state.proceedJson (Json.readText Reading.object text) fun params =>
    state.answer (.rocksDb ⟨params⟩)
  | .writeFile path entry => { state with files := state.files.write path entry }.answer .done
  | .removeFile path => { state with files := state.files.remove path }.answer .done
  | .setVariable name value =>
    { state with environment := state.environment.set name value }.answer .done
  | .unsetVariable name => { state with environment := state.environment.unset name }.answer .done
  | .factoryOfList backends as =>
    state.proceedJson (Reading.list Named.read backends.json) fun backends => do
      state.storeFactory as (← Factory.ofList backends)
  | .factoryOfText text as =>
    state.proceed (Factory.ofText text state.files) (state.storeFactory as)
  | .factoryOfFile path as =>
    state.proceed (Factory.ofFile path state.files) (state.storeFactory as)
  | .ids name => state.answer (.ids (state.factory name).ids)
  | .resolve name reference =>
    state.proceedJson (Reference.read reference.json) fun reference =>
    state.proceed (pure ((state.factory name).resolve reference)) fun config =>
    state.answer (.config config)
  | .isVolatile name reference =>
    state.proceedJson (Reference.read reference.json) fun reference => do
      state.answer (.flag (← (state.factory name).isVolatile reference))
  | .factoryCreator name reference as =>
    state.proceedJson (Reference.read reference.json) fun reference =>
    state.proceed ((state.factory name).creator reference) (state.storeCreator as)
  | .creator via config as =>
    state.proceedJson (create.readOverride config) fun config =>
    state.storeCreator as (match via, config with
      | .newCuckoo, _ | .config, none | .own, none => Creator.newCuckoo
      | .config, some config => Creator.ofConfig config
      | .own, some (.cuckoo config) => Creator.ofCuckoo config
      | .own, some (.redis config) => Creator.ofRedis config
      | .own, some (.rocksDb config) => Creator.ofRocksDb config
      | .kind kind, config => Creator.ofKind kind config)
  | .clone name as => state.withCreator name (state.storeCreator as)
  | .info name => state.withCreator name fun creator => state.answer (.creator creator)
  | .exportConfig name =>
    state.withCreator name fun creator =>
    state.proceed creator.exportConfig fun params => state.answer (.exported params)
  | .create request => state.create request
  | .calls => state.answer (.calls state.calls)

end State

/-- The answers to steps taken one after the other, each with the lines it wrote. -/
def run : List Step → State → List (Logged (Except Refusal Answer))
  | [], _ => []
  | step :: rest, state =>
    let taken := state.step step
    taken.map (·.1) :: run rest taken.value.2

end Session

end KvTables
