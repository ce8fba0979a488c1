import KvTables.Proofs.Entries.Loading
import KvTables.Proofs.Factories.Loading
import KvTables.Proofs.Logs.Laws

/-! Building a config logs an error exactly if it fails in one of the ways that are reported. -/

set_option autoImplicit false

namespace KvTables

open Backend

variable {α : Type}

namespace Log

def Clean (lines : List Line) : Prop := ∀ line ∈ lines, line.level ≠ .error

theorem clean_nil : Clean [] := nofun

theorem clean_line {level : Level} (mild : level ≠ .error) (text : String) :
    Clean [⟨level, text⟩] :=
  List.forall_mem_singleton.2 mild

theorem Clean.append {first second : List Line} (clean : Clean first) (others : Clean second) :
    Clean (first ++ second) := by
  intro line member
  rcases List.mem_append.1 member with early | late
  · exact clean line early
  · exact others line late

def EndsInError (lines : List Line) (parts : List String) : Prop :=
  ∃ line, lines.getLast? = some line ∧ line.level = .error ∧
    ∀ part ∈ parts, part.toList <:+: line.text.toList

theorem endsInError_concat {text : String} {parts : List String} (lines : List Line)
    (within : ∀ part ∈ parts, part.toList <:+: text.toList) :
    EndsInError (lines ++ [⟨.error, text⟩]) parts :=
  ⟨_, List.getLast?_concat, rfl, within⟩

end Log

/-- What the line that reports a failure has to say, for the failures that are reported. -/
def Failure.reported? : Failure → Option (List String)
  | .configRead path cause => some [path, cause.message]
  | .configParse path cause => some [path, cause.message .json]
  | .configDocument cause => some [(Failure.configDocument cause).message]
  | .wrongConfig expected actual => some [(Failure.wrongConfig expected actual).message]
  | _ => none

/-- A success leaves no error in the log, and a failure of one's own that is reported ends it. -/
structure Candid (own : Prop) (ran : Logged (Except Failure α)) : Prop where
  clean {value : α} (ok : ran.value = .ok value) : Log.Clean ran.log
  reports (mine : own) {failure : Failure} (failed : ran.value = .error failure)
    {parts : List String} (reported : failure.reported? = some parts) :
    Log.EndsInError ran.log parts

namespace Candid

variable {own : Prop}

protected theorem ok {value : α} {log : List Log.Line} (clean : Log.Clean log) :
    Candid own ⟨.ok value, log⟩ :=
  ⟨fun _ => clean, fun _ _ failed => nomatch failed⟩

protected theorem error {failure : Failure} {log : List Log.Line}
    (reports : own → ∀ parts, failure.reported? = some parts → Log.EndsInError log parts) :
    Candid own (⟨.error failure, log⟩ : Logged (Except Failure α)) where
  clean ok := nomatch ok
  reports mine _ failed parts reported := by
    cases failed
    exact reports mine parts reported

protected theorem silent {failure : Failure} {log : List Log.Line}
    (silent : failure.reported? = none) :
    Candid own (⟨.error failure, log⟩ : Logged (Except Failure α)) :=
  .error fun _ _ reported => nomatch silent.symm.trans reported

protected theorem whole {failure : Failure} (reported : failure.reported? = some [failure.message])
    (log : List Log.Line) :
    Candid own (⟨.error failure, log ++ [⟨.error, failure.message⟩]⟩ : Logged (Except Failure α)) := by
  refine .error fun _ parts asked => Log.endsInError_concat log fun part member => ?_
  obtain rfl := Option.some.inj (reported.symm.trans asked)
  exact List.mem_singleton.1 member ▸ List.infix_rfl

end Candid

/-! ### Files and texts -/

theorem Log.mentions {text before part after : String} (same : text = before ++ part ++ after) :
    part.toList <:+: text.toList :=
  ⟨before.toList, after.toList, by rw [same, String.toList_append, String.toList_append]⟩

/-- A line about a file names the file and says what is wrong with it. -/
theorem Log.mentions_file (lead path cause : String) :
    ∀ part ∈ [path, cause], part.toList <:+: (lead ++ path ++ "': " ++ cause).toList := by
  intro part member
  rcases List.mem_pair.1 member with rfl | rfl
  · exact Log.mentions (String.append_assoc)
  · exact Log.mentions (String.append_empty).symm

namespace Backend.RocksDb

theorem candid_fromPath (path : String) (files : Files) : Candid True (fromPath path files) := by
  cases holds : files.read path with
  | error cause =>
    rw [fromPath_of_error path holds]
    refine .error fun _ parts reported => Log.endsInError_concat [] fun part member => ?_
    obtain rfl := Option.some.inj reported
    exact Log.mentions_file "Failed to read RocksDB config '" path cause.message part member
  | ok content =>
    rw [fromPath_of_ok path holds]
    split
    · next cause _ =>
      refine .error fun _ parts reported => Log.endsInError_concat [] fun part member => ?_
      obtain rfl := Option.some.inj reported
      exact Log.mentions_file "Failed to parse RocksDB config '" path (cause.message .json) part member
    · exact .ok (by simp [Log.Clean])

theorem candid_fromValue (source : Json.Value) (files : Files) :
    Candid True (fromValue source files) := by
  obtain ⟨json, canonical⟩ := source
  cases json with
  | str path => exact candid_fromPath path files
  | obj fields => exact .ok Log.clean_nil
  | _ => exact .silent rfl

theorem candid_load (written : Written) (files : Files) : Candid True (written.load files) := by
  unfold Written.load
  split
  · exact candid_fromPath _ files
  · exact .ok Log.clean_nil
  · exact .silent rfl
  · exact .silent rfl

end Backend.RocksDb

def Log.Law.clean : Law where
  Allows _ succeeds lines := succeeds → Clean lines
  nil _ _ _ := clean_nil
  append early late succeeds := (early rfl).append (late succeeds)
  load written files succeeds := by
    cases loaded : (written.load files).value with
    | ok config => exact (RocksDb.candid_load written files).clean loaded
    | error failure =>
      rw [loaded] at succeeds
      cases succeeds

theorem Reading.Keeps.clean_run {reading : Reading α} (keeps : reading.Keeps Log.Law.clean.promise)
    {files : Files} {value : α} (ok : (reading.run files).value = .ok value) :
    Log.Clean (reading.run files).log := by
  refine (keeps files 0).2 ?_
  change (reading files 0).result = .ok value at ok
  rw [ok]
  rfl

namespace Factory

theorem clean_register (factory : Factory) (named : Named) : Log.Clean (factory.register named).log := by
  unfold register
  split
  · exact Log.clean_line (by decide) _
  · exact Log.clean_nil

theorem clean_registerAll (backends : List Named) (factory : Factory) :
    Log.Clean (registerAll backends factory).log := by
  induction backends generalizing factory with
  | nil => exact Log.clean_nil
  | cons named rest ih => exact (clean_register factory named).append (ih _)

theorem candid_ofText (text : String) (files : Files) : Candid True (ofText text files) := by
  cases read : ((Form.document.readYaml text).run files).value with
  | ok document =>
    rw [ofText_of_ok read]
    exact .ok (((Form.keeps_readYaml Log.Law.clean.throughout .document text).clean_run read).append
      (clean_registerAll document.backends empty))
  | error cause =>
    rw [ofText_of_error read]
    exact .whole rfl _

theorem candid_ofFile (path : String) (files : Files) : Candid True (ofFile path files) := by
  cases holds : files.read path with
  | error cause =>
    rw [ofFile_of_error holds]
    refine .error fun _ parts reported => Log.endsInError_concat [] fun part member => ?_
    obtain rfl := Option.some.inj reported
    exact Log.mentions_file "Failed to read backends file '" path cause.message part member
  | ok content =>
    have text := candid_ofText content files
    rw [ofFile_of_ok holds]
    refine ⟨fun ok => ?_, fun mine failure failed parts reported => ?_⟩
    · exact List.forall_mem_cons.2 ⟨nofun, text.clean ok⟩
    · obtain ⟨line, last, rest⟩ := text.reports mine failed reported
      refine ⟨line, ?_, rest⟩
      rw [List.getLast?_cons, last]
      rfl

end Factory

end KvTables
