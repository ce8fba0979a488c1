import KvTables.Form
import KvTables.Proofs.Reading.Cursor
import KvTables.Proofs.Recovery.Document
import KvTables.Proofs.Recovery.Table

/-! Every written value is read back as it was, without a look at any file.

Read from a tree this holds of all values. Read from text it holds of those without doubles that
nest at most as deep as the reader goes; what nests deeper is refused as a whole.
-/

set_option autoImplicit false

namespace KvTables

open Backend

namespace Form

variable {ν : Type} [Source ν] {rendering : Rendering ν}

/-- Every form is recovered, from every source and in both arrangements of its fields. -/
theorem reads (arrangement : Json.Arrangement) (form : Form) (value : form.Value) :
    rendering.Reads form.read (arrangement.apply (form.toJson value)) value := by
  cases form with
  | dtype => exact DType.reads arrangement value
  | defaultValue => exact DefaultValue.reads arrangement value
  | tableArgs => exact TableArgs.reads arrangement value
  | tableSpec => exact TableSpec.reads arrangement value
  | kind => exact Kind.reads arrangement value
  | cuckoo => exact Cuckoo.reads arrangement value
  | redis => exact Redis.reads arrangement value
  | rocksDb => exact RocksDb.reads arrangement value
  | rocksDbOptions => exact RocksDb.Options.reads arrangement value
  | config => exact Config.reads arrangement value
  | named => exact Named.reads arrangement value
  | reference => exact Reference.reads arrangement value
  | document => exact Document.reads arrangement value

/-- What is encoded decodes to the same value. The reading is the one that only returns the value,
so that it comes out the same, and silently, whatever the files hold. -/
theorem readValue_toValue (form : Form) (value : form.Value) :
    form.readValue (form.toValue value) = pure value ∧
      ∀ files, (form.readValue (form.toValue value)).run files = Logged.silent (.ok value) := by
  have recovered : Json.rendering.Reads form.read
      (Json.Arrangement.sorted.apply (form.toJson value)) value := reads .sorted form value
  have whole : form.readValue (form.toValue value) = pure value := recovered 0 rfl
  refine ⟨whole, fun files => ?_⟩
  rw [whole, Reading.run_pure]

theorem readText_toText_eq (form : Form) (value : form.Value)
    (exactly : (form.toJson value).isExact) :
    form.readText (form.toText value) =
      Reading.upTo (some Json.deepest) (form.toJson value).depth value := by
  have recovered : Json.Cursor.rendering.Reads form.read
      (Json.Arrangement.declared.apply (form.toJson value)) value := reads .declared form value
  have read : form.read (⟨.ofJson (form.toJson value), Json.deepest⟩ : Json.Cursor) =
      Reading.upTo (some Json.deepest) (0 + (form.toJson value).depth) value := recovered 0 rfl
  rw [readText, toText, Json.readText, Json.Draft.ofText_toText _ exactly]
  simp only [read, Nat.zero_add]
  exact Reading.upTo_bind_pure value id

/-- A text is read back as the value it was written from iff it nests at most 127 deep, whatever the
files hold. A deeper one is refused. -/
theorem readText_toText (form : Form) (value : form.Value)
    (exactly : (form.toJson value).isExact) (files : Files) :
    (form.readText (form.toText value)).run files =
        Logged.silent (if (form.toJson value).depth ≤ 127 then .ok value
          else .error (.broken .tooDeep)) ∧
      form.isStable value files = decide ((form.toJson value).depth ≤ 127) ∧
      ∀ dialect, (Fault.broken .tooDeep).message dialect = "recursion limit exceeded" := by
  by_cases fits : (form.toJson value).depth ≤ Json.deepest
  · have read : (form.readText (form.toText value)).run files = Logged.silent (.ok value) := by
      rw [readText_toText_eq form value exactly,
        Reading.upTo_of_allows (Reading.allows_some.2 fits), Reading.run_pure]
    refine ⟨read.trans (congrArg Logged.silent (if_pos fits).symm), ?_, fun _ => rfl⟩
    rw [isStable, read]
    exact (beq_self_eq_true _).trans (decide_eq_true fits).symm
  · have read : (form.readText (form.toText value)).run files =
        Logged.silent (.error (.broken .tooDeep)) := by
      rw [readText_toText_eq form value exactly, Reading.upTo,
        if_neg (mt Reading.allows_some.1 fits), Reading.run_broken]
    refine ⟨read.trans (congrArg Logged.silent (if_neg fits).symm), ?_, fun _ => rfl⟩
    rw [isStable, read]
    exact (decide_eq_false fits).symm

/-- A config whose parameters hold so many lists inside each other under a key that is reserved
elsewhere. -/
def nestedConfig (lists : Nat) : Config :=
  .rocksDb ⟨.ofFields [("id", Nat.repeat (fun json => .arr [json]) lists .null)]⟩

theorem readText_toText_nested :
    ((Form.toJson .config (nestedConfig 125)).isExact ∧
      (Form.readText .config (Form.toText .config (nestedConfig 125))).run .initial =
        Logged.silent (.ok (nestedConfig 125))) ∧
    ((Form.toJson .config (nestedConfig 126)).isExact ∧
      (Form.readText .config (Form.toText .config (nestedConfig 126))).run .initial =
        Logged.silent (.error (.broken .tooDeep))) := by
  have exactly : (Form.toJson .config (nestedConfig 125)).isExact := by decide +kernel
  have exactlyDeeper : (Form.toJson .config (nestedConfig 126)).isExact := by decide +kernel
  have deepest : (Form.toJson .config (nestedConfig 125)).depth ≤ 127 := by decide +kernel
  have deeper : ¬(Form.toJson .config (nestedConfig 126)).depth ≤ 127 := by decide +kernel
  refine ⟨⟨exactly, ?_⟩, ⟨exactlyDeeper, ?_⟩⟩
  · have read := (readText_toText .config (nestedConfig 125) exactly .initial).1
    rw [if_pos deepest] at read
    exact read
  · have read := (readText_toText .config (nestedConfig 126) exactlyDeeper .initial).1
    rw [if_neg deeper] at read
    exact read

end Form

end KvTables
