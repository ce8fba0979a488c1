/-! The files a program sees, by location.

A path is walked component by component from the root or from the working directory, as the
operating system does: every component but the last has to name a directory, and `..` leaves the
directory reached so far. What lies beside the working directory is not known and counts as absent.
-/

set_option autoImplicit false

namespace KvTables

/-- Why a file cannot be read as text. Beside the causes that a walk can lead to, the system has
others, such as a permission that is missing or links in a loop; these say themselves what they are. -/
inductive ReadError where
  | missing | isDirectory | notDirectory | nameTooLong | nulInPath | notUtf8
  | other (message : String)
  deriving DecidableEq, Repr

def ReadError.message : ReadError → String
  | .missing => "No such file or directory (os error 2)"
  | .isDirectory => "Is a directory (os error 21)"
  | .notDirectory => "Not a directory (os error 20)"
  | .nameTooLong => "File name too long (os error 36)"
  | .nulInPath => "file name contained an unexpected NUL byte"
  | .notUtf8 => "stream did not contain valid UTF-8"
  | .other message => message

/-- What a location holds; binary content is content that is not UTF-8. At a barrier the system
refuses to open what is there, and to go past it, each for a cause of its own. -/
inductive Entry where
  | text (content : String)
  | binary
  | directory
  | barrier (opening passing : ReadError)
  deriving DecidableEq, Repr

/-- Where a walk starts. `above n` is the directory `n + 1` levels over the working directory. -/
inductive Base where
  | root
  | working
  | above (levels : Nat)
  deriving DecidableEq, Repr

/-- A place among the files, with its components from the last to the first. -/
structure Location where
  base : Base
  reversed : List String
  deriving DecidableEq, Repr

namespace Location

def child (location : Location) (name : String) : Location :=
  { location with reversed := name :: location.reversed }

def parent (location : Location) : Location :=
  match location.base, location.reversed with
  | base, _ :: rest => ⟨base, rest⟩
  | .root, [] => ⟨.root, []⟩
  | .working, [] => ⟨.above 0, []⟩
  | .above n, [] => ⟨.above (n + 1), []⟩

def ancestors : Location → List Location
  | ⟨_, []⟩ => []
  | ⟨base, _ :: rest⟩ => ⟨base, rest⟩ :: ancestors ⟨base, rest⟩

end Location

/-- Locations with what they hold; the first entry of a location counts. -/
structure Files where
  entries : List (Location × Entry)
  deriving DecidableEq, Repr

namespace Files

/-- No file at all, and one directory besides the root and the working directory. -/
def initial : Files := ⟨[(⟨.root, ["tmp"]⟩, .directory)]⟩

def longestPath : Nat := 4095

def longestName : Nat := 255

def find? (files : Files) (location : Location) : Option Entry :=
  match location.reversed with
  | [] => some .directory
  | _ => files.entries.lookup location

def components (path : String) : List String :=
  (path.toList.splitOn '/').map String.ofList

def start (path : String) : Location :=
  if path.toList.head? = some '/' then ⟨.root, []⟩ else ⟨.working, []⟩

def enter (files : Files) (location : Location) (name : String) : Except ReadError Location :=
  match files.find? location with
  | none => .error .missing
  | some .directory =>
    if name = "" ∨ name = "." then .ok location
    else if name = ".." then .ok location.parent
    -- Looking a name up fails for its length before it can be missing.
    else if longestName < name.utf8ByteSize then .error .nameTooLong
    else .ok (location.child name)
  | some (.barrier _ passing) => .error passing
  | some _ => .error .notDirectory

/-- The location a path leads to, which need not hold anything. -/
def locate (files : Files) (path : String) : Except ReadError Location :=
  if '\x00' ∈ path.toList then .error .nulInPath
  else if path = "" then .error .missing
  else if longestPath < path.utf8ByteSize then .error .nameTooLong
  else (components path).foldlM files.enter (start path)

def read (files : Files) (path : String) : Except ReadError String := do
  match files.find? (← files.locate path) with
  | none => .error .missing
  | some (.text content) => .ok content
  | some .binary => .error .notUtf8
  | some .directory => .error .isDirectory
  | some (.barrier opening _) => .error opening

def isFile (files : Files) (location : Location) : Bool :=
  match files.find? location with
  | some (.text _) | some .binary | some (.barrier _ _) => true
  | _ => false

/-- Follow a path as if every directory on it existed. -/
def target (path : String) : Location :=
  (components path).foldl (fun location name =>
    if name = "" ∨ name = "." then location
    else if name = ".." then location.parent
    else location.child name) (start path)

/-- Put an entry at a path, with the directories above it. Nothing changes where a file is in the
way of a directory or a directory in the way of a file. -/
def write (files : Files) (path : String) (entry : Entry) : Files :=
  let location := target path
  let above := location.ancestors
  let blocked := above.any files.isFile ||
    (match files.find? location with
    | some .directory => true
    | some _ => entry = .directory
    | none => false)
  if blocked then files
  else ⟨(location, entry) :: above.map (fun reached => (reached, .directory)) ++ files.entries⟩

def remove (files : Files) (path : String) : Files :=
  match files.locate path with
  | .error _ => files
  | .ok location =>
    if files.isFile location then
      ⟨files.entries.filter fun entry => entry.1 ≠ location⟩
    else files

end Files

end KvTables
