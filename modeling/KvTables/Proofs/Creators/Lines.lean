import KvTables.Proofs.Creators.Provider
import KvTables.Proofs.Logs.Candid

/-! The lines of creations and exports.

A creation's own line comes last: it announces the construction that the provider is asked for, or says
why there is none. The check of the key type puts a warning in front and changes nothing else.
-/

set_option autoImplicit false

namespace KvTables

open Backend

variable {σ Table : Type}

def Log.Line.announces (line : Log.Line) : Bool := "Creating ".toList.isPrefixOf line.text.toList

theorem Log.Line.not_announces {line : Line} {first : Char}
    (starts : line.text.toList.head? = some first) (other : first ≠ 'C') : ¬ line.announces := by
  intro announces
  obtain ⟨after, begins⟩ := List.isPrefixOf_iff_prefix.1 announces
  rw [← begins] at starts
  exact other (Option.some.inj starts).symm

theorem head?_append {text rest : String} {first : Char} (starts : text.toList.head? = some first) :
    (text ++ rest).toList.head? = some first := by
  rw [String.toList_append, List.head?_append, starts]
  rfl

namespace Creator

def noted (direct : Bool) (creator : Creator) (provider : Provider σ Table) (call : Call)
    (memory : σ) : List (Noted Table) :=
  (creator.createVia direct provider.noting call (memory, [])).value.state.2

variable (direct : Bool) {creator : Creator} (provider : Provider σ Table) {call : Call} (memory : σ)

theorem noted_of_ok {construction : Construction}
    (asked : creator.construction call = .ok construction) :
    creator.noted direct provider call memory =
      [(construction, (provider.construct construction memory).1)] := by
  rw [noted, createVia_value, asked]
  rfl

theorem noted_of_error {failure : Failure} (refused : creator.construction call = .error failure) :
    creator.noted direct provider call memory = [] := by
  rw [noted, createVia_value, refused]
  rfl

theorem length_noted (creator : Creator) (call : Call) :
    (creator.noted direct provider call memory).length ≤ 1 := by
  cases asked : creator.construction call with
  | ok construction => rw [noted_of_ok direct provider memory asked, List.length_singleton]
  | error failure =>
    rw [noted_of_error direct provider memory asked]
    exact Nat.zero_le 1

theorem createDirectly_of_ok {construction : Construction}
    (asked : creator.construction call = .ok construction) :
    (creator.createDirectly provider call memory).log =
      [⟨.debug, announcement creator.kind call.args⟩] := by
  rw [createDirectly, asked]
  rfl

/-- A creation is only refused for the config in effect. -/
theorem wrongConfig_of_construction {failure : Failure}
    (refused : creator.construction call = .error failure) :
    failure = .wrongConfig creator.kind ((call.override.or creator.config).map Config.kind) := by
  unfold construction at refused
  dsimp only at refused
  split at refused
  · cases refused
  · cases refused
  · cases refused
  · exact (Except.error.inj refused).symm
  · exact (Except.error.inj refused).symm

/-- The failure says what its line says. -/
theorem message_wrongConfig (expected : Kind) (effective : Option Config) :
    (Failure.wrongConfig expected (effective.map Config.kind)).message =
      mismatchText expected effective := by
  cases effective <;> rfl

theorem createDirectly_of_error {failure : Failure}
    (refused : creator.construction call = .error failure) :
    (creator.createDirectly provider call memory).log = [⟨.error, failure.message⟩] := by
  rw [wrongConfig_of_construction refused, message_wrongConfig, createDirectly, refused]
  rfl

def keyLines (creator : Creator) (call : Call) : List Log.Line :=
  if call.args.keyDType.isKeyType then []
  else [⟨.warn,
    s!"Key dtype {call.args.keyDType.name} has no registered {creator.kind.name} kernels"⟩]

theorem log_create (creator : Creator) (call : Call) : (creator.create provider call memory).log =
    creator.keyLines call ++ (creator.createDirectly provider call memory).log := by
  rw [create, keyLines]
  split <;> rfl

theorem log_createVia (creator : Creator) (call : Call) :
    (creator.createVia direct provider call memory).log =
      (if direct then [] else creator.keyLines call) ++
        (creator.createDirectly provider call memory).log := by
  cases direct with
  | true => rfl
  | false => exact log_create provider memory creator call

theorem clean_keyLines (creator : Creator) (call : Call) : Log.Clean (creator.keyLines call) := by
  unfold keyLines
  split
  · exact Log.clean_nil
  · exact List.forall_mem_singleton.2 nofun

theorem filter_keyLines (creator : Creator) (call : Call) :
    (creator.keyLines call).filter Log.Line.announces = [] := by
  unfold keyLines
  split
  · rfl
  · refine List.filter_eq_nil_iff.2 (List.forall_mem_singleton.2 ?_)
    have starts : "Key dtype ".toList.head? = some 'K' := rfl
    have other : 'K' ≠ 'C' := by decide
    refine Log.Line.not_announces ?_ other
    exact head?_append (head?_append (head?_append (head?_append starts)))

theorem announces_announcement (kind : Kind) (args : TableArgs) (level : Log.Level) :
    Log.Line.announces ⟨level, announcement kind args⟩ := by
  simp only [Log.Line.announces, announcement, String.toList_append, List.append_assoc]
  exact List.isPrefixOf_iff_prefix.2 (List.prefix_append _ _)

/-- Whatever the way, one line announces each construction asked for. -/
theorem filter_createVia (creator : Creator) (call : Call) :
    (creator.createVia direct provider call memory).log.filter Log.Line.announces =
      (creator.noted direct provider call memory).map
        fun _ => ⟨.debug, announcement creator.kind call.args⟩ := by
  rw [log_createVia, List.filter_append]
  have front : (if direct then [] else creator.keyLines call).filter Log.Line.announces = [] := by
    cases direct with
    | true => rfl
    | false => exact filter_keyLines creator call
  rw [front, List.nil_append]
  cases asked : creator.construction call with
  | ok construction =>
    rw [createDirectly_of_ok provider memory asked, noted_of_ok direct provider memory asked]
    exact List.filter_cons_of_pos (announces_announcement _ _ _)
  | error failure =>
    rw [createDirectly_of_error provider memory asked, noted_of_error direct provider memory asked]
    obtain rfl := wrongConfig_of_construction asked
    refine List.filter_eq_nil_iff.2 (List.forall_mem_singleton.2 ?_)
    have starts : "config should be instance of '".toList.head? = some 'c' := rfl
    have other : 'c' ≠ 'C' := by decide
    refine Log.Line.not_announces ?_ other
    exact head?_append (head?_append (head?_append (head?_append starts)))

/-- An export is silent, or it complains of a symbolic value. -/
theorem exportConfig_cases (creator : Creator) :
    (∃ params, creator.exportConfig = ⟨.ok params, []⟩) ∨
    creator.exportConfig = ⟨.error .noTableYet, []⟩ ∨
    (∃ operation, creator.exportConfig = ⟨.error (.notImplemented operation), []⟩) ∨
    ∃ stored call value own, creator = .cuckoo stored (some call) ∧
      call.args.defaultValue = some value ∧ value.toValue = .error own ∧
      creator.exportConfig = ⟨.error (.notEager .creatorConfig),
        [⟨.error, "Cannot export CuckooHashTableCreator config: " ++ own.message⟩]⟩ := by
  cases creator with
  | redis stored => exact .inr (.inr (.inl ⟨_, rfl⟩))
  | rocksDb stored => exact .inr (.inr (.inl ⟨_, rfl⟩))
  | cuckoo stored last =>
    cases last with
    | none => exact .inr (.inl rfl)
    | some call =>
      rw [exportConfig]
      cases given : call.args.defaultValue with
      | none => exact .inl ⟨_, rfl⟩
      | some value =>
        cases concrete : value.toValue with
        | ok result =>
          simp only [concrete]
          exact .inl ⟨_, rfl⟩
        | error own =>
          simp only [concrete]
          exact .inr (.inr (.inr ⟨stored, call, value, own, rfl, given, concrete, rfl⟩))

end Creator

end KvTables
