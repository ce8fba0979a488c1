import KvTables.Backend.Document
import KvTables.Table.Creator
import KvTables.Yaml.FromText

/-! Factories: backends by name, and creators for them. -/

set_option autoImplicit false

namespace KvTables

open Backend

structure Factory where
  backends : Sorted Config

namespace Factory

def empty : Factory := ⟨Sorted.empty⟩

/-- Register one more backend; the last of a name wins, with a warning. -/
def register (factory : Factory) (named : Named) : Logged Factory := do
  if factory.backends.contains named.id then
    Logged.line .warn
      s!"Backend '{named.id}' is defined more than once, the last definition wins"
  pure ⟨factory.backends.insert named.id named.config⟩

def registerAll : List Named → Factory → Logged Factory
  | [], factory => pure factory
  | named :: rest, factory => do registerAll rest (← factory.register named)

def ofList (backends : List Named) : Logged Factory := registerAll backends empty

/-- The backends of a YAML text; files named in it are loaded while it is read. -/
def ofText (text : String) (files : Files) : Logged (Except Failure Factory) := do
  match ← (Yaml.readText Document.read text).run files with
  | .error cause => do
    Logged.line .error ("Failed to load backends document: " ++ cause.message .yaml)
    pure (.error (.configDocument cause))
  | .ok document => do
    let factory ← ofList document.backends
    pure (.ok factory)

def ofFile (path : String) (files : Files) : Logged (Except Failure Factory) :=
  match files.read path with
  | .error cause => do
    Logged.line .error (s!"Failed to read backends file '{path}': " ++ cause.message)
    pure (.error (.configRead path cause))
  | .ok content => do
    Logged.line .info s!"Loading storage backends from '{path}'"
    ofText content files

def ids (factory : Factory) : List String := factory.backends.keys

def resolve (factory : Factory) : Reference → Except Failure Config
  | .named name =>
    match factory.backends.get? name with
    | some config => .ok config
    | none => .error (.unknownBackend name)
  | .inline config => .ok config

def creator (factory : Factory) (reference : Reference) : Logged (Except Failure Creator) :=
  match factory.resolve reference with
  | .error failure => pure (.error failure)
  | .ok config => do
    Logged.line .debug s!"Building {config.kind.name} creator"
    pure (.ok (.ofConfig config))

/-- Whether the contents of a backend's tables are lost at the end; unknown backends count as
persistent. -/
def isVolatile (factory : Factory) (reference : Reference) : Logged Bool :=
  match factory.resolve reference with
  | .ok config => pure config.isVolatile
  | .error failure => do
    Logged.line .warn ("Treating backend as persistent: " ++ failure.message)
    pure false

end Factory

end KvTables
