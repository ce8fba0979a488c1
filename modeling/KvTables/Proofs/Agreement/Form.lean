import KvTables.Form
import KvTables.Proofs.Agreement.Table
import KvTables.Proofs.Agreement.Tagged

/-! Every form is read alike from values that show the same. -/

set_option autoImplicit false

namespace KvTables

open Backend

variable {ν μ : Type} [Source ν] [Source μ] {Shows Top : ν → Json → Prop} {Shown : μ → Json → Prop}

namespace TableSpec

variable (faithful : Faithful Shows) (other : Faithful Shown)
  (names : Agree Shows Shown True (Source.name "variant identifier")
    (Source.name "variant identifier"))

include faithful other names

theorem agree_field (field : Field) :
    Agree Shows Shown (some Field.config ≠ some field) (readField field) (readField field) := by
  cases field with
  | backend => exact (Kind.agree faithful other).louder
  | args => exact (TableArgs.agree faithful other).louder
  | config =>
    -- Of the fields of a description only the config can look at a file.
    have config := Agree.optional faithful other.toShowing
      (Config.agree (.whole faithful other) names)
    exact config.mono fun different => different rfl

theorem agree : Agree Shows Shown False read read := by
  have fields : Agree Shows Shown (some Field.config = none) (shape.read readField)
      (shape.read readField) :=
    Shape.agree (.whole faithful other) (agree_field faithful other names)
  exact (fields.mono False.elim).map fun slots =>
    TableSpec.mk (slots .backend) (slots .args) (slots .config)

end TableSpec

namespace Form

theorem agree (faithful : Faithful Shows) (other : Faithful Shown)
    (names : Agree Shows Shown True (Source.name "variant identifier")
      (Source.name "variant identifier")) (form : Form) :
    Agree Shows Shown False form.read form.read := by
  have compares := Compares.whole faithful other
  cases form with
  | dtype => exact (DType.agree faithful other).louder
  | defaultValue => exact (DefaultValue.agree faithful other).louder
  | tableArgs => exact (TableArgs.agree faithful other).louder
  | tableSpec => exact TableSpec.agree faithful other names
  | kind => exact (Kind.agree faithful other).louder
  | cuckoo => exact (Cuckoo.agree compares).louder
  | redis => exact (Redis.agree compares).louder
  | rocksDb => exact RocksDb.agree compares
  | rocksDbOptions => exact (RocksDb.Options.agree compares).louder
  | config => exact Config.agree compares names
  | named => exact Named.agree faithful other.toShowing
  | reference => exact Reference.agree faithful other.toShowing
  | document => exact Document.agree compares

/-- The forms of backends, which name their variants by a tag only. -/
def isBackend : Form → Bool
  | .redis | .rocksDb | .rocksDbOptions | .config | .named | .reference | .document => true
  | _ => false

/-- Written with keys, backends are read alike even where a list is not taken for a record. -/
theorem agree_keyed (faithful : Faithful Shows) (showing : Showing Shown)
    (names : Agree Shows Shown True (Source.name "variant identifier")
      (Source.name "variant identifier")) {form : Form} (backend : form.isBackend) :
    Agree (Keyed Shows) Shown False form.read form.read := by
  have compares := Compares.keyed faithful showing
  have narrow : ∀ {first : ν} {second : μ}, Alike (Keyed Shows) Shown first second →
      Alike Shows Shown first second := by
    rintro first second ⟨json, tidy, top, shownTidy, tidied⟩
    exact ⟨json, tidy, top.1, shownTidy, tidied⟩
  cases form with
  | redis => exact (Redis.agree compares).louder
  | rocksDb => exact RocksDb.agree compares
  | rocksDbOptions => exact (RocksDb.Options.agree compares).louder
  | config => exact Config.agree compares names
  | named => exact fun _ _ alike => Named.agree faithful showing (narrow alike)
  | reference => exact fun _ _ alike => Reference.agree faithful showing (narrow alike)
  | document => exact Document.agree compares
  | _ => cases backend

end Form

end KvTables
