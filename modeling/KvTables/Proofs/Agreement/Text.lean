import KvTables.Proofs.Agreement.Form
import KvTables.Proofs.Json.Unbroken

/-! Reading from text and reading through a JSON value agree.

A value that a text writes keeps the last of repeated keys and forgets the order of all keys. It can
therefore be read wherever the text can; the text can be read wherever the value can, unless it repeats
a key.
-/

set_option autoImplicit false

namespace KvTables

namespace Form

variable (form : Form) {text : String} {tree : Json}

theorem readText_of_ofText (parsed : Json.ofText text = .ok tree) :
    form.readText text = form.read (Json.Cursor.ofJson 0 tree) :=
  Json.readText_of_ofText parsed form.read

/-- A text is read as any tree is that tidies its own. -/
theorem leads_text {ν : Type} [Source ν] {Shown : ν → Json → Prop} (other : Faithful Shown)
    (parsed : Json.ofText text = .ok tree) {tidy : Json} (tidied : tree.Tidied tidy) {value : ν}
    (shown : Shown value tidy) :
    (form.readText text).Leads False Eq (form.read value) := by
  rw [form.readText_of_ofText parsed]
  exact form.agree Json.Cursor.faithful other (.name_text other.toShowing _)
    ⟨tree, tidy, Json.shows_of_ofText parsed, shown, tidied⟩

theorem leads_value {ν : Type} [Source ν] {Shown : ν → Json → Prop} (other : Faithful Shown)
    {tidy : Json} (tidied : tree.canonical.Tidied tidy) {value : ν} (shown : Shown value tidy) :
    (form.readValue (.ofJson tree)).Leads False Eq (form.read value) :=
  form.agree Json.faithful other (.name_json other.toShowing _)
    ⟨tree.canonical, tidy, ⟨0, rfl, rfl⟩, shown, tidied⟩

/-- What is read from a text is read from the value it writes, with the same lines. What is read from
the value is read from the text if the text repeats no key. And a text is read the same whatever the
order of its keys. -/
theorem readText_agrees_readValue (parsed : Json.ofText text = .ok tree) (files : Files) :
    (∀ value, ((form.readText text).run files).value = .ok value →
      (form.readValue (.ofJson tree)).run files = (form.readText text).run files) ∧
    (tree.Distinct → ∀ value, ((form.readValue (.ofJson tree)).run files).value = .ok value →
      (form.readText text).run files = (form.readValue (.ofJson tree)).run files) ∧
    ∀ other moved, Json.ofText other = .ok moved → tree.Reordered moved →
      ∀ value, ((form.readText text).run files).value = .ok value →
        (form.readText other).run files = (form.readText text).run files := by
  have canonical := Json.Tidied.canonical_self tree
  refine ⟨fun value ok => ?_, fun distinct value ok => ?_,
    fun other moved parsedOther reordered value ok => ?_⟩
  · have shown : Json.rendering.Shows tree.canonical tree.canonical := ⟨0, rfl, rfl⟩
    exact (form.leads_text Json.faithful parsed canonical shown).run_eq ok
  · rw [form.readText_of_ofText parsed]
    exact (form.leads_value Json.Cursor.faithful (canonical.symm distinct)
      (Json.shows_of_ofText parsed)).run_eq ok
  · rw [form.readText_of_ofText parsedOther]
    exact (form.leads_text Json.Cursor.faithful parsed reordered.tidied
      (Json.shows_of_ofText parsedOther)).run_eq ok

def unsorted : Json :=
  .obj [("src", .null), ("params", .obj [("b", .arr [.bool true]), ("a", .null)])]

def sorted : Json :=
  .obj [("params", .obj [("a", .null), ("b", .arr [.bool true])]), ("src", .null)]

theorem readText_agrees_readValue_unsorted :
    Json.ofText unsorted.toText = .ok unsorted ∧ Json.ofText sorted.toText = .ok sorted ∧
    unsorted.Distinct ∧ unsorted.Reordered sorted ∧
    (∃ value, ((readText .rocksDb unsorted.toText).run .initial).value = .ok value) ∧
    (readValue .rocksDb (.ofJson unsorted)).run .initial =
      (readText .rocksDb unsorted.toText).run .initial ∧
    (readText .rocksDb unsorted.toText).run .initial =
      (readValue .rocksDb (.ofJson unsorted)).run .initial ∧
    (readText .rocksDb sorted.toText).run .initial =
      (readText .rocksDb unsorted.toText).run .initial := by
  let config : Backend.RocksDb := ⟨.ofFields [("a", .null), ("b", .arr [.bool true])]⟩
  have parsed : Json.ofText unsorted.toText = .ok unsorted :=
    Json.ofText_toText (by decide) (by decide)
  have parsedSorted : Json.ofText sorted.toText = .ok sorted :=
    Json.ofText_toText (by decide) (by decide)
  have distinct : unsorted.Distinct := by
    simp [unsorted, Json.Distinct, Json.DistinctFields, Json.DistinctItems]
  have reordered : unsorted.Reordered sorted :=
    .trans (.value [("src", .null)] "params" [] (.of_perm (.swap _ _ _) (by decide)))
      (.of_perm (.swap _ _ _) (by decide))
  have byText : ((readText .rocksDb unsorted.toText).run .initial).value = .ok config := by
    rw [readText_of_ofText _ parsed]
    rfl
  have byValue : ((readValue .rocksDb (.ofJson unsorted)).run .initial).value = .ok config := by
    rfl
  obtain ⟨toValue, toText, inOrder⟩ := readText_agrees_readValue .rocksDb parsed .initial
  exact ⟨parsed, parsedSorted, distinct, reordered, ⟨config, byText⟩, toValue config byText,
    toText distinct config byValue, inOrder _ _ parsedSorted reordered config byText⟩

end Form

end KvTables
