import KvTables.Proofs.Agreement.Form
import KvTables.Proofs.Yaml.Tree

/-! Backends written in YAML mean what they mean in JSON.

A JSON value that is read as a backend is read alike from the YAML nodes that write it, in whatever
order they have its keys. YAML has no positional records, so on top there must not be a list.
-/

set_option autoImplicit false

namespace KvTables

namespace Json

theorem depthItems_le {items : List Json} {most : Nat} (fits : ∀ item ∈ items, item.depth ≤ most) :
    depthItems items ≤ most := by
  induction items with
  | nil => exact Nat.zero_le _
  | cons item rest ih =>
    rw [depthItems, Nat.max_le]
    exact ⟨fits item List.mem_cons_self, ih fun other member => fits other (List.mem_cons_of_mem _ member)⟩

theorem depthFields_le {fields : List (String × Json)} {most : Nat}
    (fits : ∀ field ∈ fields, field.2.depth ≤ most) : depthFields fields ≤ most := by
  induction fields with
  | nil => exact Nat.zero_le _
  | cons field rest ih =>
    obtain ⟨key, value⟩ := field
    rw [depthFields, Nat.max_le]
    exact ⟨fits (key, value) List.mem_cons_self,
      ih fun other member => fits other (List.mem_cons_of_mem _ member)⟩

namespace Reordered

theorem eq_or_mem_of_replaced {α : Type} {before after : List α} {old new found : α}
    (member : found ∈ before ++ new :: after) : found = new ∨ found ∈ before ++ old :: after := by
  rcases List.mem_append.1 member with early | late
  · exact .inr (List.mem_append_left _ early)
  · rcases List.mem_cons.1 late with here | behind
    · exact .inl here
    · exact .inr (List.mem_append_right _ (List.mem_cons_of_mem _ behind))

theorem mem_of_moved {fields others : List (String × Json)}
    (moved : ∀ key, under key fields = under key others) {field : String × Json}
    (member : field ∈ others) : field ∈ fields := by
  have held := mem_under.2 member
  rw [← moved] at held
  exact mem_under.1 held

theorem isExact {json other : Json} (reordered : json.Reordered other) (exactly : json.isExact) :
    other.isExact := by
  induction reordered with
  | refl json => exact exactly
  | fields moved =>
    exact isExactFields_iff.2 fun field member =>
      isExactFields_iff.1 exactly field (mem_of_moved moved member)
  | item before after _ ih =>
    have items := isExactItems_iff.1 exactly
    refine isExactItems_iff.2 fun item member => ?_
    rcases eq_or_mem_of_replaced member with rfl | stays
    · exact ih (items _ (List.mem_append_right _ List.mem_cons_self))
    · exact items item stays
  | value before key after _ ih =>
    have values := isExactFields_iff.1 exactly
    refine isExactFields_iff.2 fun field member => ?_
    rcases eq_or_mem_of_replaced member with rfl | stays
    · exact ih (values _ (List.mem_append_right _ List.mem_cons_self))
    · exact values field stays
  | trans _ _ ihFirst ihSecond => exact ihSecond (ihFirst exactly)

theorem depth_le {json other : Json} (reordered : json.Reordered other) :
    other.depth ≤ json.depth := by
  induction reordered with
  | refl json => exact Nat.le_refl _
  | fields moved =>
    exact Nat.succ_le_succ (depthFields_le fun field member =>
      depth_le_of_mem_fields (mem_of_moved moved member))
  | @item item other before after _ ih =>
    refine Nat.succ_le_succ (depthItems_le fun found member => ?_)
    rcases eq_or_mem_of_replaced member with rfl | stays
    · exact Nat.le_trans ih (depth_le_of_mem_items (List.mem_append_right _ List.mem_cons_self))
    · exact depth_le_of_mem_items stays
  | @value value other before key after _ ih =>
    refine Nat.succ_le_succ (depthFields_le fun found member => ?_)
    rcases eq_or_mem_of_replaced member with rfl | stays
    · have here : (key, value) ∈ before ++ (key, value) :: after :=
        List.mem_append_right _ List.mem_cons_self
      exact Nat.le_trans ih (depth_le_of_mem_fields here)
    · exact depth_le_of_mem_fields stays
  | trans _ _ ihFirst ihSecond => exact Nat.le_trans ihSecond ihFirst

end Reordered

end Json

namespace Yaml

def Cursor.whole (document : Document) : Cursor := ⟨document, document.root, .root, deepest, false⟩

theorem Cursor.whole_shows {document : Document} {tree : Json} (root : document.root = .ofJson tree)
    (exactly : tree.isExact) (fits : tree.depth ≤ deepest) : Shows (Cursor.whole document) tree := by
  rw [whole, root]
  exact .intro document .root exactly fits

/-- A sound text is read as its document is. -/
theorem run_readText {α : Type} {text : String} (sound : (Document.ofText text).sound)
    (read : Cursor → Reading α) (files : Files) :
    (readText read text).run files = (read (Cursor.whole (Document.ofText text))).run files := by
  change (Reading.andThen (Reading.attempt (read (Cursor.whole (Document.ofText text)))) _).run files =
    _
  simp only [Reading.run, Reading.andThen, Reading.attempt, sound, if_true]
  cases same : (read (Cursor.whole (Document.ofText text)) files 0).result with
  | error fault => simp only [Reading.fail, List.append_nil]
  | ok value => simp only [pure, Reading.succeed, List.append_nil]

end Yaml

namespace Form

/-- A backend that can be read from a JSON value is read, with the same lines, from YAML nodes of the
same content. -/
theorem readYaml_agrees_readValue {form : Form} (backend : form.isBackend) {value : Json.Value}
    (exactly : value.json.isExact) (fits : value.json.depth ≤ 127)
    (keyed : ∀ items, value.json ≠ .arr items) {tree : Json} (reordered : value.json.Reordered tree)
    {document : Yaml.Document} (root : document.root = .ofJson tree) {files : Files}
    {result : form.Value} (ok : ((form.readValue value).run files).value = .ok result) :
    (form.read (Yaml.Cursor.whole document)).run files = (form.readValue value).run files ∧
    ∀ text, Yaml.Document.ofText text = document → document.sound →
      (form.readYaml text).run files = (form.readValue value).run files := by
  have shown : Yaml.Cursor.Shows (Yaml.Cursor.whole document) tree := by
    refine Yaml.Cursor.whole_shows root (reordered.isExact exactly) ?_
    exact Nat.le_trans reordered.depth_le (Nat.le_trans fits (by decide))
  have agree := form.agree_keyed Json.faithful Yaml.Cursor.showing (.name_json Yaml.Cursor.showing _)
    backend ⟨value.json, tree, ⟨⟨0, rfl, rfl⟩, keyed⟩, shown, reordered.tidied⟩
  have same : (form.read (Yaml.Cursor.whole document)).run files =
      (form.readValue value).run files := agree.run_eq ok
  refine ⟨same, ?_⟩
  rintro text rfl sound
  rw [← same]
  exact Yaml.run_readText sound form.read files

/-- A config of which one parameter is a number and the other looks like null. -/
def shelf : Json.Value :=
  .ofJson (.obj [("backend_type", .str "rocksdb"),
    ("params", .obj [("a", .str "null"), ("depth", .num (.int 5 (by decide)))])])

def shuffled : Json :=
  .obj [("params", .obj [("depth", .num (.int 5 (by decide))), ("a", .str "null")]),
    ("backend_type", .str "rocksdb")]

def shelfDocument : Yaml.Document := ⟨.ofJson shuffled, [], 11, true⟩

def shelfText : String :=
  "\"params\": \x7b\"depth\": 5, \"a\": \"null\"\x7d\n\"backend_type\": \"rocksdb\"\n"

def shelfTokens : List Yaml.Token :=
  [.blockMappingStart, .key, .scalar .quoted "params", .value, .flowMappingStart, .key,
    .scalar .quoted "depth", .value, .scalar .plain "5", .flowEntry, .key, .scalar .quoted "a", .value,
    .scalar .quoted "null", .flowMappingEnd, .key, .scalar .quoted "backend_type", .value,
    .scalar .quoted "rocksdb", .blockEnd, .textEnd]

theorem readYaml_agrees_readValue_shuffled :
    Form.config.isBackend ∧ shelf.json.isExact ∧ shelf.json.depth ≤ 127 ∧
    (∀ items, shelf.json ≠ .arr items) ∧ shelf.json.Reordered shuffled ∧
    shelfDocument.root = .ofJson shuffled ∧ Yaml.Document.ofText shelfText = shelfDocument ∧
    (∃ config, ((readValue .config shelf).run .initial).value = .ok config) ∧
    (readYaml .config shelfText).run .initial = (readValue .config shelf).run .initial := by
  have exactly : shelf.json.isExact := by rfl
  have fits : shelf.json.depth ≤ 127 := by decide
  have keyed : ∀ items, shelf.json ≠ .arr items := nofun
  have reordered : shelf.json.Reordered shuffled :=
    .trans (.value [("backend_type", .str "rocksdb")] "params" [] (.of_perm (.swap _ _ _) (by decide)))
      (.of_perm (.swap _ _ _) (by decide))
  have root : shelfDocument.root = .ofJson shuffled := rfl
  have scanned : Yaml.Token.ofText shelfText = shelfTokens := by decide +kernel
  have parsed : Yaml.Document.ofText shelfText = shelfDocument := by
    rw [Yaml.Document.ofText, scanned]
    rfl
  let config : Backend.Config := .rocksDb ⟨.ofFields [("a", .str "null"),
    ("depth", .num (.int 5 (by decide)))]⟩
  have ok : ((readValue .config shelf).run .initial).value = .ok config := by rfl
  have read := (readYaml_agrees_readValue rfl exactly fits keyed reordered root ok).2
  exact ⟨rfl, exactly, fits, keyed, reordered, root, parsed, ⟨config, ok⟩, read _ parsed rfl⟩

end Form

end KvTables
