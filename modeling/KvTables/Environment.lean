/-! Environment variables by name. -/

set_option autoImplicit false

namespace KvTables

/-- The value of a variable; binary values are those that are not UTF-8. -/
inductive Variable where
  | text (value : String)
  | binary
  deriving DecidableEq, Repr

/-- Assignments, the latest first. -/
structure Environment where
  assignments : List (String × Variable)
  deriving DecidableEq, Repr

namespace Environment

def initial : Environment := ⟨[]⟩

def set (environment : Environment) (name : String) (value : Variable) : Environment :=
  ⟨(name, value) :: environment.assignments⟩

def unset (environment : Environment) (name : String) : Environment :=
  ⟨environment.assignments.filter fun assignment => assignment.1 ≠ name⟩

def get? (environment : Environment) (name : String) : Option Variable :=
  environment.assignments.lookup name

def text? (environment : Environment) (name : String) : Option String :=
  match environment.get? name with
  | some (.text value) => some value
  | _ => none

end Environment

end KvTables
