import KvTables.Proofs.Documents.Listed
import KvTables.Proofs.Entries.Places
import KvTables.Proofs.Factories.Loading
import KvTables.Proofs.Logs.Laws

/-! Building a factory from a text that lists backends is all or nothing.

The backends are read in document order, each as if it were a document of its own, and the first that cannot
be read ends it all.
-/

set_option autoImplicit false

namespace KvTables

open Backend

/-- Lines that loading some files logs, one file after the other. -/
def Log.Law.loading : Law where
  Allows files _ lines :=
    ∃ paths : List String, lines = paths.flatMap fun path => (RocksDb.fromPath path files).log
  nil _ _ := ⟨[], rfl⟩
  append early late := by
    obtain ⟨first, rfl⟩ := early
    obtain ⟨second, rfl⟩ := late
    exact ⟨first ++ second, List.flatMap_append.symm⟩
  load written files := by
    unfold RocksDb.Written.load
    split
    · next path _ _ =>
      refine ⟨[path], ?_⟩
      rw [List.flatMap_singleton]
    · exact ⟨[], rfl⟩
    · exact ⟨[], rfl⟩
    · exact ⟨[], rfl⟩

theorem Yaml.Document.loads_entry (document : Document) (files : Files) (item : Node) :
    ∃ paths : List String,
      (document.entry files item).log = paths.flatMap fun path => (RocksDb.fromPath path files).log :=
  have keeps : (Named.read (document.alone item)).Keeps Log.Law.loading.promise :=
    (Cursor.answers Log.Law.loading.throughout.toOnNodes).named Log.Law.loading.throughout.toOnFiles _
  (keeps files 0).2

theorem Form.reads_document {text : String} (sound : (Yaml.Document.ofText text).sound)
    {key : Yaml.Node} {items : List Yaml.Node}
    (lists : (Yaml.Document.ofText text).Lists "backends" key items) (files : Files) :
    Yaml.ReadsEach (Yaml.Document.ofText text) files (Yaml.Document.shownKey key) 0 items
      (fun found backends => found.backends = backends) fun files =>
        Document.read (Yaml.Cursor.whole (Yaml.Document.ofText text)) files 0 := by
  have given : (Yaml.Document.ofText text).root ≠ .nothing := by
    obtain ⟨root, -, -, -⟩ := lists
    rw [root]
    exact nofun
  obtain ⟨whole, holds⟩ := Yaml.Document.whole_of_sound sound given
  exact Document.reads_listed whole holds lists 0

/-- A message starts with the path of the mismatch, if there is one. -/
theorem Fault.path_prefix (path : String) (cause : Mismatch) (dialect : Dialect) :
    path.toList <+: ((Fault.mismatch (some path) cause).message dialect).toList := by
  change path.toList <+: (path ++ ": " ++ cause.message dialect).toList
  rw [String.append_assoc, String.toList_append]
  exact List.prefix_append _ _

theorem exists_of_forall₂ {α β : Type} {Related : α → β → Prop} {firsts : List α} {seconds : List β}
    (each : List.Forall₂ Related firsts seconds) {first : α} (member : first ∈ firsts) :
    ∃ second, Related first second := by
  induction each with
  | nil => cases member
  | cons related _ ih =>
    rcases List.mem_cons.1 member with rfl | later
    · exact ⟨_, related⟩
    · exact ih later

namespace Factory

open Yaml (entryPath)

/-- A text that lists backends makes a factory of all of them or of none. If some entry cannot be read, the
first such is named, and neither the entries behind it nor the files that only they name have a part in what
comes of it. -/
theorem ofText_entries {text : String} (sound : (Yaml.Document.ofText text).sound) {key : Yaml.Node}
    {items : List Yaml.Node} (lists : (Yaml.Document.ofText text).Lists "backends" key items)
    {files : Files} (within : ∀ fault,
      ((Form.document.readYaml text).run files).value = .error fault → ¬ fault.isLimit) :
    let entry := (Yaml.Document.ofText text).entry
    ((∃ factory, (ofText text files).value = .ok factory) ↔
      ∀ item ∈ items, ∃ named, (entry files item).value = .ok named) ∧
    (∀ factory, (ofText text files).value = .ok factory → ∃ backends,
      List.Forall₂ (fun item named => (entry files item).value = .ok named) items backends ∧
      factory = (ofList backends).value ∧
      (ofText text files).log =
        (items.flatMap fun item => (entry files item).log) ++ (ofList backends).log) ∧
    (∀ failure, (ofText text files).value = .error failure → ∃ before item after fault whole,
      items = before ++ item :: after ∧
      (∀ one ∈ before, ∃ named, (entry files one).value = .ok named) ∧
      (entry files item).value = .error fault ∧
      failure = .configDocument whole ∧
      (entryPath (if key.isAlias then "?" else "backends") before.length).toList <+:
        (whole.message .yaml).toList ∧
      (ofText text files).log = ((before ++ [item]).flatMap fun one => (entry files one).log) ++
        [⟨.error, "Failed to load backends document: " ++ whole.message .yaml⟩] ∧
      ∀ others, (∀ one ∈ before ++ [item], entry others one = entry files one) →
        ofText text others = ofText text files) ∧
    ∀ item, ∃ paths : List String,
      (entry files item).log = paths.flatMap fun path => (RocksDb.fromPath path files).log := by
  intro entry
  have loads (item : Yaml.Node) := (Yaml.Document.ofText text).loads_entry files item
  have read (files : Files) : (Form.document.readYaml text).run files =
      (Document.read (Yaml.Cursor.whole (Yaml.Document.ofText text))).run files :=
    Yaml.run_readText sound Document.read files
  have ended {outcome : Outcome Document} (ran : Document.read _ files 0 = outcome) :
      (Form.document.readYaml text).run files = ⟨outcome.result, outcome.log⟩ :=
    (read files).trans (congrArg (fun outcome => Logged.mk outcome.result outcome.log) ran)
  -- By the way the reading ends: at a limit, with all entries, or at the first that fails.
  cases Form.reads_document sound lists files with
  | limit limited =>
    obtain ⟨fault, failed, isLimit⟩ := limited
    refine absurd isLimit (within fault ?_)
    rw [read]
    exact failed
  | @all backends found made each later ran =>
    have built := ofText_of_ok (congrArg Logged.value (ended ran))
    rw [ended ran, made] at built
    have every : ∀ item ∈ items, ∃ named, (entry files item).value = .ok named :=
      fun item member => exists_of_forall₂ each member
    rw [built]
    refine ⟨⟨fun _ => every, fun _ => ⟨_, rfl⟩⟩, fun factory made => ?_, nofun, loads⟩
    exact ⟨backends, each, (Except.ok.inj made).symm, rfl⟩
  | @stops before after item split earlier fault failed path placed cause later ran fixed =>
    have built := ofText_of_error (congrArg Logged.value (ended ran))
    rw [ended ran] at built
    have broken : ¬ ∀ item ∈ items, ∃ named, (entry files item).value = .ok named := by
      intro every
      obtain ⟨named, ok⟩ := every item (split ▸ List.mem_append_right _ List.mem_cons_self)
      cases failed.symm.trans ok
    have same (others : Files) (agree : ∀ one ∈ before ++ [item], entry others one = entry files one) :
        ofText text others = ofText text files := by
      have runs : (Form.document.readYaml text).run others = (Form.document.readYaml text).run files := by
        rw [read, read]
        exact congrArg (fun outcome => Logged.mk outcome.result outcome.log) (fixed others agree)
      have builtOthers := ofText_of_error (congrArg Logged.value (runs.trans (ended ran)))
      rw [builtOthers, runs, ended ran, built]
    refine ⟨⟨fun ⟨factory, made⟩ => ?_, fun every => absurd every broken⟩, fun factory made => ?_,
      fun failure refused => ?_, loads⟩
    · rw [built] at made
      cases made
    · rw [built] at made
      cases made
    · rw [built] at refused
      refine ⟨before, item, after, fault, _, split, earlier, failed, (Except.error.inj refused).symm,
        ?_, congrArg Logged.log built, same⟩
      rw [Nat.zero_add, lists.shownKey_eq] at placed
      exact placed.trans (Fault.path_prefix path cause .yaml)

def word (text : String) : Yaml.Node := .scalar .plain none text none

def untagged : Yaml.Node := .mapping none [(word "id", word "b")] none

def twoEntries : List Yaml.Node :=
  [.mapping none [(word "id", word "a"), (word "backend_type", word "redis")] none, untagged]

def twoBackends : Yaml.Document where
  root := .mapping none [(word "backends", .sequence none twoEntries none)] none
  targets := []
  events := 15
  sound := true

def twoBackendsText : String := "backends: [\x7bid: a, backend_type: redis\x7d, \x7bid: b\x7d]"

def twoBackendsTokens : List Yaml.Token :=
  [.blockMappingStart, .key, .scalar .plain "backends", .value, .flowSequenceStart, .flowMappingStart,
    .key, .scalar .plain "id", .value, .scalar .plain "a", .flowEntry, .key,
    .scalar .plain "backend_type", .value, .scalar .plain "redis", .flowMappingEnd, .flowEntry,
    .flowMappingStart, .key, .scalar .plain "id", .value, .scalar .plain "b", .flowMappingEnd,
    .flowSequenceEnd, .blockEnd, .textEnd]

/-- The second backend has no tag, so that there is no factory of the first. -/
theorem ofText_entries_untagged :
    let cause : Fault := .mismatch (some "backends[1]") (.missingField "backend_type")
    Yaml.Document.ofText twoBackendsText = twoBackends ∧ twoBackends.sound ∧
    twoBackends.Lists "backends" (word "backends") twoEntries ∧
    ((Form.document.readYaml twoBackendsText).run .initial).value = .error cause ∧
    cause.isLimit = false ∧
    (twoBackends.entry .initial untagged).value =
      .error (.mismatch none (.missingField "backend_type")) ∧
    ¬ ∃ factory, (ofText twoBackendsText .initial).value = .ok factory := by
  intro cause
  have scanned : Yaml.Token.ofText twoBackendsText = twoBackendsTokens := by decide +kernel
  have parsed : Yaml.Document.ofText twoBackendsText = twoBackends := by
    rw [Yaml.Document.ofText, scanned]
    rfl
  have sound : (Yaml.Document.ofText twoBackendsText).sound := by rw [parsed]; rfl
  have lists : twoBackends.Lists "backends" (word "backends") twoEntries :=
    @Yaml.Document.Lists.intro _ _ _ [] [] _ _ _ rfl rfl (fun _ member => by cases member) _ _ _ rfl
  have read : ((Form.document.readYaml twoBackendsText).run .initial).value = .error cause := by
    change ((Yaml.readText Document.read twoBackendsText).run .initial).value = _
    rw [Yaml.run_readText sound, parsed]
    rfl
  have failed : (twoBackends.entry .initial untagged).value =
      .error (.mismatch none (.missingField "backend_type")) := rfl
  have within (fault : Fault)
      (same : ((Form.document.readYaml twoBackendsText).run .initial).value = .error fault) :
      ¬ fault.isLimit := by
    cases read.symm.trans same
    exact Bool.false_ne_true
  have entries := (ofText_entries sound (parsed ▸ lists) within).1
  refine ⟨parsed, rfl, lists, read, rfl, failed, fun made => ?_⟩
  obtain ⟨named, ok⟩ := entries.1 made untagged (by simp [twoEntries])
  rw [parsed] at ok
  cases failed.symm.trans ok

/-- One backend, below a key for which an alias stands. -/
def aliasedKey : Yaml.Document where
  root := .mapping none [(word "x", .scalar .plain none "backends" (some 0)),
    (.alias 0, .sequence none [untagged] none)] none
  targets := [(0, .scalar .plain none "backends" (some 0))]
  events := 11
  sound := true

def aliasedKeyText : String := "x: &k backends\n*k : [\x7bid: b\x7d]\n"

def aliasedKeyTokens : List Yaml.Token :=
  [.blockMappingStart, .key, .scalar .plain "x", .value, .anchor "k", .scalar .plain "backends", .key,
    .alias "k", .value, .flowSequenceStart, .flowMappingStart, .key, .scalar .plain "id", .value,
    .scalar .plain "b", .flowMappingEnd, .flowSequenceEnd, .blockEnd, .textEnd]

/-- What is named by an alias is not named in the message. -/
theorem ofText_entries_fails_aliasedKey :
    let whole : Fault := .mismatch (some "?[0]") (.missingField "backend_type")
    Yaml.Document.ofText aliasedKeyText = aliasedKey ∧ aliasedKey.sound ∧
    aliasedKey.Lists "backends" (.alias 0) [untagged] ∧
    (aliasedKey.entry .initial untagged).value =
      .error (.mismatch none (.missingField "backend_type")) ∧
    (ofText aliasedKeyText .initial).value = .error (.configDocument whole) ∧
    whole.isLimit = false ∧ ¬ "backends[0]".toList <+: (whole.message .yaml).toList := by
  intro whole
  have scanned : Yaml.Token.ofText aliasedKeyText = aliasedKeyTokens := by decide +kernel
  have parsed : Yaml.Document.ofText aliasedKeyText = aliasedKey := by
    rw [Yaml.Document.ofText, scanned]
    rfl
  have sound : (Yaml.Document.ofText aliasedKeyText).sound := by rw [parsed]; rfl
  have lists : aliasedKey.Lists "backends" (.alias 0) [untagged] :=
    @Yaml.Document.Lists.intro _ _ _ [(word "x", .scalar .plain none "backends" (some 0))] [] _ _ _
      rfl rfl (List.forall_mem_singleton.2 ⟨"x", rfl, by decide⟩) _ _ _ rfl
  have read : ((Form.document.readYaml aliasedKeyText).run .initial).value = .error whole := by
    change ((Yaml.readText Document.read aliasedKeyText).run .initial).value = _
    rw [Yaml.run_readText sound, parsed]
    rfl
  have built := ofText_of_error read
  exact ⟨parsed, rfl, lists, rfl, congrArg Logged.value built, rfl, by decide⟩

end Factory

end KvTables
