/-! Log lines, and computations that write them. -/

set_option autoImplicit false

namespace KvTables

namespace Log

inductive Level where
  | error | warn | info | debug
  deriving DecidableEq, Repr

def Level.name : Level → String
  | .error => "ERROR"
  | .warn => "WARN"
  | .info => "INFO"
  | .debug => "DEBUG"

structure Line where
  level : Level
  text : String
  deriving DecidableEq, Repr

end Log

structure Logged (α : Type) where
  value : α
  log : List Log.Line
  deriving Repr

namespace Logged

variable {α β : Type}

def silent (value : α) : Logged α := ⟨value, []⟩

def bind (first : Logged α) (next : α → Logged β) : Logged β :=
  let second := next first.value
  ⟨second.value, first.log ++ second.log⟩

instance : Monad Logged where
  pure := silent
  bind := bind

def map (f : α → β) (logged : Logged α) : Logged β := ⟨f logged.value, logged.log⟩

def line (level : Log.Level) (text : String) : Logged Unit := ⟨(), [⟨level, text⟩]⟩

@[simp] theorem value_silent (value : α) : (silent value).value = value := rfl

@[simp] theorem log_silent (value : α) : (silent value).log = [] := rfl

@[simp] theorem value_bind (first : Logged α) (next : α → Logged β) :
    (first.bind next).value = (next first.value).value := rfl

@[simp] theorem log_bind (first : Logged α) (next : α → Logged β) :
    (first.bind next).log = first.log ++ (next first.value).log := rfl

end Logged

end KvTables
