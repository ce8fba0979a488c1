import KvTables.Proofs.Agreement.Backend

/-! Configs behind a tag are read alike from values that show the same.

The tag is taken out as a record of one field would take it, and all other fields are kept aside. What
is kept shows the tree it was made from, so the config is read alike from there.
-/

set_option autoImplicit false

namespace KvTables

open Reading (Leads Fails)

variable {ν μ : Type} [Source ν] [Source μ] {Shows Top : ν → Json → Prop} {Shown : μ → Json → Prop}

def Shape.single (key : String) (γ : Type) : Shape Unit (fun _ => γ) where
  title := key
  fields := [()]
  complete _ := List.mem_singleton_self _
  name _ := key
  aliases _ := []
  absent _ := none

theorem Shape.find?_single (key : String) (γ : Type) (text : String) :
    (Shape.single key γ).find? (.text text) = if text = key then some () else none := by
  by_cases same : text = key
  · subst same
    simp [find?, single]
  · have different : ¬key = text := fun equal => same equal.symm
    simp [find?, single, same, different]

def Slots.only {γ : Type} (found : Option γ) : Slots fun _ : Unit => γ := fun _ => found

theorem Slots.fill_only {γ : Type} (found : Option γ) (result : γ) :
    (only found).fill () result = only (some result) := by
  funext field
  exact fill_self _ _ _

theorem Shape.readGiven_single {key : String} {γ : Type} (read : Reading γ)
    (rest : Given fun _ : Unit => γ) (found : Option γ) :
    (Shape.single key γ).readGiven (⟨(), read⟩ :: rest) (.only found) =
      if found.isSome then Reading.mismatch (.duplicateField key)
      else read >>= fun result => (Shape.single key γ).readGiven rest (.only (some result)) := by
  rw [Shape.readGiven]
  simp only [Slots.fill_only]
  rfl

/-- A pass over fields that reads the value under one key and keeps the other fields aside. -/
structure Keeps {γ : Type} (key : String) (readKey : ν → Reading γ)
    (split : List (ν × ν) → Option γ → Reading (Option γ × List (Buffer × Buffer))) : Prop where
  empty (found : Option γ) : split [] found = pure (found, [])
  taken {spelling : ν} (spells : Spells spelling key) (value : ν) (rest : List (ν × ν))
    (found : Option γ) :
    split ((spelling, value) :: rest) found =
      if found.isSome then Reading.mismatch (.duplicateField key)
      else readKey value >>= fun result => split rest (some result)
  kept {spelling : ν} {other : String} (spells : Spells spelling other) (different : other ≠ key)
    (value : ν) (rest : List (ν × ν)) (found : Option γ) :
    split ((spelling, value) :: rest) found = do
      let kept ← Source.buffer "any value" value
      let (found, others) ← split rest found
      return (found, (.text other, kept) :: others)

namespace Keeps

variable {γ : Type} {key : String} {readKey : ν → Reading γ}
  {split : List (ν × ν) → Option γ → Reading (Option γ × List (Buffer × Buffer))}

/-- The key is read as the only field of a record. -/
theorem split_eq (keeps : Keeps key readKey split) {spell : String → ν} {held : String → Json → ν}
    (spells : ∀ text, Spells (spell text) text) (fields : List (String × Json))
    (aside : ∀ entry ∈ fields, ∀ expected,
      Source.buffer expected (held entry.1 entry.2) = pure (Buffer.ofJson entry.2))
    (found : Option γ) :
    split (fields.map fun entry => (spell entry.1, held entry.1 entry.2)) found =
      (fun slots => (slots (), Buffer.ofFields (fields.filter fun entry => entry.1 ≠ key))) <$>
        (Shape.single key γ).readGiven
          ((Shape.single key γ).given (fun _ => readKey) held fields) (.only found) := by
  induction fields generalizing found with
  | nil => exact (keeps.empty found).trans (map_pure _ _).symm
  | cons entry rest ih =>
    obtain ⟨name, value⟩ := entry
    have later := ih fun other member => aside other (List.mem_cons_of_mem _ member)
    by_cases same : name = key
    · subst same
      have given : (Shape.single name γ).given (fun _ => readKey) held ((name, value) :: rest) =
          ⟨(), readKey (held name value)⟩ ::
            (Shape.single name γ).given (fun _ => readKey) held rest := by
        simp [Shape.given, Shape.find?_single]
      rw [List.map_cons, keeps.taken (spells name), given, Shape.readGiven_single,
        List.filter_cons_of_neg (by simp)]
      split
      · rfl
      · simp only [later, map_bind]
    · have given : (Shape.single key γ).given (fun _ => readKey) held ((name, value) :: rest) =
          (Shape.single key γ).given (fun _ => readKey) held rest := by
        simp [Shape.given, Shape.find?_single, same]
      rw [List.map_cons, keeps.kept (spells name) same, aside _ List.mem_cons_self, pure_bind, later,
        given, List.filter_cons_of_pos (by simpa using same)]
      simp only [map_eq_pure_bind, bind_assoc, pure_bind]
      rfl

end Keeps

abbrev AlikeKept : Buffer → Buffer → Prop := Alike Buffer.rendering.Shows Buffer.rendering.Shows

theorem alike_kept {json tidy : Json} (tidied : json.Tidied tidy) :
    AlikeKept (.ofJson json) (.ofJson tidy) :=
  ⟨json, tidy, ⟨0, rfl, rfl⟩, ⟨0, rfl, rfl⟩, tidied⟩

/-- Of tidied objects the key is read alike and the rest is kept alike. -/
theorem agree_split {γ : Type} {key : String} {readKey : ν → Reading γ} {otherKey : μ → Reading γ}
    {split : List (ν × ν) → Option γ → Reading (Option γ × List (Buffer × Buffer))}
    {splits : List (μ × μ) → Option γ → Reading (Option γ × List (Buffer × Buffer))}
    (faithful : Faithful Shows) (showing : Showing Shown) (keeps : Keeps key readKey split)
    (keepsTidy : Keeps key otherKey splits) (agree : Agree Shows Shown True readKey otherKey)
    {first : ν} {second : μ} {fields others : List (String × Json)}
    (shown : Shows first (.obj fields)) (shownTidy : Shown second (.obj others))
    (tidied : (Json.obj fields).Tidied (.obj others)) (expected : String) :
    Leads True (fun (one : Entries ν) (other : Entries μ) => one.past = pure () ∧
        other.past = pure () ∧
        Leads True (fun result found => result.1 = found.1 ∧
            AlikeKept (.mapping result.2) (.mapping found.2))
          (split one.pairs none) (splits other.pairs none))
      (Source.entries expected first) (Source.entries expected second) := by
  obtain ⟨spell, held, asked, spells, inside⟩ := faithful.entries shown
  obtain ⟨spellTidy, holds, askedTidy, spellsTidy, insideTidy⟩ := showing.entries shownTidy
  rw [asked, askedTidy]
  refine .pure ⟨rfl, rfl, ?_⟩
  rw [keeps.split_eq spells fields fun entry member => faithful.buffer (inside entry member),
    keepsTidy.split_eq spellsTidy others fun entry member => showing.buffer (insideTidy entry member)]
  have fields : ∀ field : Unit, Agree Shows Shown (none ≠ some field) readKey otherKey :=
    fun _ => agree.louder
  have taken : Leads (@none Unit = none) Eq
      ((Shape.single key γ).readGiven
        ((Shape.single key γ).given (fun _ => readKey) held _) (.only none))
      ((Shape.single key γ).readGiven
        ((Shape.single key γ).given (fun _ => otherKey) holds _) (.only none)) :=
    Shape.readGiven_tidied fields inside insideTidy tidied _
  refine (taken.mono (fun _ => rfl) fun _ _ same => same).map ?_
  rintro slots _ rfl
  exact ⟨rfl, alike_kept (tidied.filter fun name => name ≠ key)⟩

theorem Showing.each_buffer (showing : Showing Shown) {elements : List μ} {items : List Json}
    (shown : List.Forall₂ Shown elements items) (expected : String) :
    Reading.each (Source.buffer expected) elements = pure (Buffer.ofItems items) := by
  induction shown with
  | nil => rfl
  | cons first _ ih =>
    rw [Reading.each, showing.buffer first, ih, pure_bind, pure_bind]
    rfl

namespace Agree

/-- A text is a name everywhere; what a number names has to be settled by the sources. -/
theorem name (faithful : Faithful Shows) (showing : Showing Shown) (expected : String)
    (numbers : ∀ {first : ν} {second : μ} {number : Json.Number}, Shows first (.num number) →
      Shown second (.num number) →
      Leads True Eq (Source.name expected first) (Source.name expected second)) :
    Agree Shows Shown True (Source.name expected) (Source.name expected) := by
  rintro first second ⟨json, tidy, shown, shownTidy, tidied⟩
  cases json with
  | str content =>
    obtain rfl := tidied.eq_str
    rw [faithful.name shown, showing.name shownTidy]
    exact .pure rfl
  | num number =>
    obtain rfl := tidied.eq_num
    exact numbers shown shownTidy
  | _ => exact .of_fails (faithful.refuses shown (.name expected) rfl)

theorem name_json (showing : Showing Shown) (expected : String) :
    Agree Json.rendering.Shows Shown True (Source.name expected) (Source.name expected) := by
  refine name Json.faithful showing expected ?_
  rintro _ second number ⟨_, rfl, -⟩ -
  exact .of_fails (Reading.fails_mismatch _)

theorem name_text (showing : Showing Shown) (expected : String) :
    Agree Json.Cursor.rendering.Shows Shown True (Source.name expected) (Source.name expected) := by
  refine name Json.Cursor.faithful showing expected ?_
  rintro _ second number ⟨level, rfl, -⟩ -
  exact .of_fails ((Reading.fails_mismatch _).bind _)

theorem name_kept (expected : String) :
    Agree Buffer.rendering.Shows Buffer.rendering.Shows True (Source.name expected)
      (Source.name expected) := by
  refine name Buffer.faithful Buffer.faithful.toShowing expected ?_
  rintro _ _ number ⟨_, rfl, -⟩ ⟨_, rfl, -⟩
  cases number with
  | float value => exact .of_fails (Reading.fails_mismatch _)
  | int value fits =>
    change Leads True Eq (if 0 ≤ value then _ else _) (if 0 ≤ value then _ else _)
    split
    · exact .pure rfl
    · exact .of_fails (Reading.fails_mismatch _)

end Agree

namespace Backend

namespace Config

theorem agree_readTag (faithful : Faithful Shows) (showing : Showing Shown)
    (names : Agree Shows Shown True (Source.name "variant identifier")
      (Source.name "variant identifier")) :
    Agree Shows Shown True readTag readTag := by
  rintro first second ⟨json, tidy, shown, shownTidy, tidied⟩
  obtain ⟨change, placed⟩ := faithful.place shown
  obtain ⟨report, reported⟩ := showing.place shownTidy
  rw [readTag, readTag, placed, reported]
  refine Leads.onFault ?_ change report
  refine (names ⟨json, tidy, shown, shownTidy, tidied⟩).bind ?_
  rintro name _ rfl
  exact Agree.quiet_pick name

theorem keeps_tag : Keeps (ν := ν) tag readTag splitTag where
  empty _ := rfl
  taken spells value rest found := by
    rw [splitTag, spells.buffer, pure_bind]
    rfl
  kept spells different value rest found := by
    rw [splitTag, spells.buffer, pure_bind]
    split
    · next equal => exact absurd (Buffer.text.inj equal) different
    · rfl

/-- The fields beside the tag are read alike from what was kept of them. -/
theorem agree_readAs (kind : Kind) {kept other : Buffer} (alike : AlikeKept kept other) :
    Leads False Eq (readAs kept kind) (readAs other kind) := by
  have compares := Compares.whole Buffer.faithful Buffer.faithful
  cases kind with
  | cuckoo => exact ((Cuckoo.agree compares).louder alike).map fun _ _ => congrArg Config.cuckoo
  | redis => exact ((Redis.agree compares).louder alike).map fun _ _ => congrArg Config.redis
  | rocksDb => exact (RocksDb.agree compares alike).map fun _ _ => congrArg Config.rocksDb

theorem agree (compares : Compares Shows Top Shown)
    (names : Agree Shows Shown True (Source.name "variant identifier")
      (Source.name "variant identifier")) :
    Agree Top Shown False read read := by
  rintro first second ⟨json, tidy, top, shownTidy, tidied⟩
  have shown := compares.narrow top
  have tags := agree_readTag compares.faithful compares.showing names
  have parts : Leads False (fun one other : Kind × Buffer => one.1 = other.1 ∧
        AlikeKept one.2 other.2)
      (Source.tagged "internally tagged enum BackendConfig" first >>= readParts)
      (Source.tagged "internally tagged enum BackendConfig" second >>= readParts) := by
    cases json with
    | obj fields =>
      obtain ⟨others, rfl⟩ := tidied.eq_obj
      rw [compares.faithful.tagged shown, compares.showing.tagged shownTidy, bind_map_left,
        bind_map_left]
      have split := agree_split compares.faithful compares.showing keeps_tag keeps_tag tags shown
        shownTidy tidied "internally tagged enum BackendConfig"
      refine split.louder.bind ?_
      rintro ⟨pairs, past⟩ ⟨pairsTidy, pastTidy⟩ ⟨rfl, rfl, taken⟩
      refine taken.louder.bind ?_
      rintro ⟨found, kept⟩ ⟨_, keptTidy⟩ ⟨rfl, alike⟩
      cases found with
      | none => exact .of_fails (Reading.fails_mismatch _)
      | some kind => exact .pure ⟨rfl, alike⟩
    | arr items =>
      obtain ⟨others, rfl, pointwise⟩ := tidied.eq_arr
      obtain ⟨listed, asked, lists⟩ := compares.faithful.tagged_list shown
      obtain ⟨listedTidy, askedTidy, listsTidy⟩ := (compares.lists top).tagged_list shownTidy
      rw [asked, askedTidy, pure_bind, pure_bind, readParts, readParts, lists.past, listsTidy.past]
      have elements := lists.elements
      have elementsTidy := listsTidy.elements
      cases pointwise with
      | nil =>
        rw [List.forall₂_nil_right_iff.1 elements]
        exact .of_fails (Reading.fails_mismatch _)
      | @cons item tidyItem items others alike rest =>
        obtain ⟨value, values, shownItem, shownRest, same⟩ :=
          List.forall₂_cons_right_iff.1 elements
        obtain ⟨other, otherValues, shownTidyItem, shownTidyRest, sameTidy⟩ :=
          List.forall₂_cons_right_iff.1 elementsTidy
        rw [same, sameTidy]
        refine (tags.louder ⟨item, tidyItem, shownItem, shownTidyItem, alike⟩).bind ?_
        rintro kind _ rfl
        rw [compares.faithful.each_buffer shownRest, compares.showing.each_buffer shownTidyRest,
          pure_bind, pure_bind]
        exact .pure ⟨rfl, alike_kept tidied.tail⟩
    | _ => exact .of_fails (Fails.bind (compares.faithful.refuses shown (.tagged _) rfl) _)
  obtain ⟨change, placed⟩ := compares.faithful.place shown
  obtain ⟨report, reported⟩ := compares.showing.place shownTidy
  rw [read, read, placed, reported]
  refine (parts.onFault change report).bind ?_
  rintro ⟨kind, kept⟩ ⟨_, keptTidy⟩ ⟨rfl, alike⟩
  exact agree_readAs kind alike

theorem agree_kept : Agree Buffer.rendering.Shows Buffer.rendering.Shows False read read :=
  agree (.whole Buffer.faithful Buffer.faithful) (.name_kept _)

end Config

namespace Named

theorem keeps_id : Keeps (ν := ν) "id" (Source.text "a string") splitId where
  empty _ := rfl
  taken spells value rest found := by
    rw [splitId, spells.text, pure_bind]
    rfl
  kept spells different value rest found := by
    rw [splitId, spells.text, pure_bind, if_neg different]

theorem agree (faithful : Faithful Shows) (showing : Showing Shown) :
    Agree Shows Shown False read read := by
  rintro first second ⟨json, tidy, shown, shownTidy, tidied⟩
  obtain ⟨change, placed⟩ := faithful.place shown
  obtain ⟨report, reported⟩ := showing.place shownTidy
  rw [read, read, placed, reported]
  refine Leads.onFault ?_ change report
  cases json with
  | obj fields =>
    obtain ⟨others, rfl⟩ := tidied.eq_obj
    have split := agree_split faithful showing keeps_id keeps_id (.text faithful showing "a string")
      shown shownTidy tidied "struct NamedBackendConfig"
    refine split.louder.bind ?_
    rintro ⟨pairs, past⟩ ⟨pairsTidy, pastTidy⟩ ⟨rfl, rfl, taken⟩
    refine taken.louder.bind ?_
    rintro ⟨found, kept⟩ ⟨_, keptTidy⟩ ⟨rfl, alike⟩
    cases found with
    | none => exact .of_fails (Reading.fails_mismatch _)
    | some id => exact (Config.agree_kept.map (Named.mk id)) alike
  | _ => exact .of_fails (Fails.bind (faithful.refuses shown (.entries _) rfl) _)

end Named

namespace Reference

/-- An inline config is read as the config itself, with a fault of its own. -/
theorem attempt_eq (kept : Buffer) :
    (Reading.attempt (Config.read kept) >>= fun attempted =>
      match attempted with
      | .ok config => pure (inline config)
      | .error _ => Reading.mismatch (.noVariant "BackendRef")) =
      (inline <$> Config.read kept).onFault fun _ => .mismatch none (.noVariant "BackendRef") := by
  funext files followed
  rw [map_eq_pure_bind]
  change (Reading.andThen _ _) files followed =
    Reading.onFault _ (Reading.andThen _ _) files followed
  cases same : (Config.read kept files followed).result with
  | error fault =>
    simp only [Reading.andThen, Reading.onFault, Reading.attempt, same]
    simp [Reading.mismatch, Reading.fail, Except.mapError]
  | ok config =>
    simp only [Reading.andThen, Reading.onFault, Reading.attempt, same]
    rfl

theorem read_object {value : ν} {fields : List (Buffer × Buffer)}
    (kept : Source.buffer "any value" value = pure (Buffer.mapping fields)) :
    read value = (inline <$> Config.read (Buffer.mapping fields)).onFault
      fun _ => .mismatch none (.noVariant "BackendRef") := by
  rw [read, kept, pure_bind]
  exact attempt_eq _

theorem agree (faithful : Faithful Shows) (showing : Showing Shown) :
    Agree Shows Shown False read read := by
  rintro first second ⟨json, tidy, shown, shownTidy, tidied⟩
  rw [read, read, faithful.buffer shown, showing.buffer shownTidy, pure_bind, pure_bind]
  have config := ((Config.agree_kept (alike_kept tidied)).map fun _ _ => congrArg inline).onFault
    (fun _ => .mismatch none (.noVariant "BackendRef"))
    (fun _ => .mismatch none (.noVariant "BackendRef"))
  rw [← attempt_eq, ← attempt_eq] at config
  -- Tidying makes a text of nothing else.
  have same := tidied.same
  cases json with
  | str name =>
    obtain rfl := tidied.eq_str
    exact .pure rfl
  | _ =>
    cases tidy with
    | str name => simp [Json.canonical] at same
    | _ => exact config

end Reference

namespace Document

theorem agree (compares : Compares Shows Top Shown) : Agree Top Shown False read read := by
  have fields : Agree Top Shown (some Field.backends = none) (shape.read readField)
      (shape.read readField) := Shape.agree compares fun field => by
    have list : Agree Shows Shown False (readField field) (readField field) :=
      .list compares.faithful compares.showing (Named.agree compares.faithful compares.showing)
    exact list.mono fun other => other rfl
  exact (fields.mono False.elim).map fun slots => Document.mk (slots .backends)

end Document

end Backend

end KvTables
