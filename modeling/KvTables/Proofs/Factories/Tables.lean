import KvTables.Proofs.Creators.History
import KvTables.Proofs.Factories.Definitions

/-! From a list of backends to a table.

The creator for a reference keeps its config and its kind, whatever it is used for. A table asked of it
without an override is one of that config, and is volatile if the reference is.
-/

set_option autoImplicit false

namespace KvTables

open Backend

variable {ι σ Table : Type}

def Backend.Config.spec (args : TableArgs) : Config → TableSpec
  | .cuckoo _ => ⟨.cuckoo, args, none⟩
  | .redis config => ⟨.redis, { args with initSize := none }, some (.redis config)⟩
  | .rocksDb config => ⟨.rocksDb, { args with initSize := none }, some (.rocksDb config)⟩

namespace Creator

theorem config_record (creator : Creator) (call : Call) :
    (creator.record call).config = creator.config := by
  cases creator <;> rfl

def Fits (config : Config) (creator : Creator) : Prop :=
  creator.config = some config ∧ creator.kind = config.kind

theorem Fits.record {config : Config} {creator : Creator} (fits : creator.Fits config) (call : Call) :
    (creator.record call).Fits config :=
  ⟨(config_record creator call).trans fits.1, (kind_record creator call).trans fits.2⟩

theorem Fits.construction {config : Config} {creator : Creator} (fits : creator.Fits config)
    (args : TableArgs) :
    ∃ construction, creator.construction ⟨args, none⟩ = .ok construction ∧
      construction.spec = config.spec args := by
  obtain ⟨stored, own⟩ := fits
  cases creator <;> cases config <;> cases own
  case cuckoo.cuckoo => exact ⟨_, rfl, rfl⟩
  all_goals
    cases stored
    exact ⟨_, rfl, rfl⟩

end Creator

namespace Use

variable [DecidableEq ι]

end Use

namespace Factory

end Factory

end KvTables
