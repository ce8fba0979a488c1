import KvTables.Proofs.Agreement.Yaml
import KvTables.Proofs.Documents.InPlace

/-! The entries of a document are read one after the other, up to the first that fails. -/

set_option autoImplicit false

namespace KvTables

open Backend

variable {α β : Type}

namespace Reading

variable {first : Reading α} {files : Files} {followed : Nat}

theorem limited_bind (limited : (first files followed).Limited) (next : α → Reading β) :
    ((first >>= next) files followed).Limited := by
  cases found : first files followed with
  | mk result log later =>
    rw [found] at limited
    obtain ⟨fault, rfl, isLimit⟩ := limited
    rw [bind_at_error found]
    exact ⟨fault, rfl, isLimit⟩

/-- A mismatch comes with a path where there is one to give. -/
theorem path_of_onFault {reading : Reading α} {text : String} {path : Option String}
    {cause : Mismatch}
    (failed : (reading.onFault (Fault.placed (some text)) files followed).result =
      .error (.mismatch path cause)) : ∃ own, path = some own := by
  simp only [onFault] at failed
  cases result : (reading files followed).result with
  | ok value =>
    rw [result] at failed
    cases failed
  | error fault =>
    rw [result] at failed
    cases fault with
    | broken cause => cases failed
    | mismatch own cause =>
      cases own with
      | none =>
        cases failed
        exact ⟨text, rfl⟩
      | some own =>
        cases failed
        exact ⟨own, rfl⟩

end Reading

namespace Yaml

def Node.isAlias : Node → Bool
  | .alias _ => true
  | _ => false

namespace Document

def resolved (document : Document) : Node → Node
  | .alias number => document.target number
  | node => node

def keyText? (document : Document) (key : Node) : Option String :=
  match document.resolved key with
  | .scalar _ _ text _ => some text
  | _ => none

theorem resolved_of_keyText? {document : Document} {key : Node} {text : String}
    (keyed : document.keyText? key = some text) :
    ∃ style tag anchor, document.resolved key = .scalar style tag text anchor := by
  unfold keyText? at keyed
  cases resolved : document.resolved key with
  | scalar style tag found anchor =>
    rw [resolved] at keyed
    cases keyed
    exact ⟨style, tag, anchor, rfl⟩
  | _ =>
    rw [resolved] at keyed
    cases keyed

/-- A key as paths show it; what an alias stands for is not shown. -/
def shownKey : Node → String
  | .scalar _ _ text _ => text
  | _ => "?"

/-- A node as the item of a list, and as a document of its own. -/
def item (document : Document) (parent : Path) (index room : Nat) (node : Node) : Cursor :=
  ⟨document, node, .item parent index, room, false⟩

def alone (document : Document) (node : Node) : Cursor :=
  Cursor.whole { document with root := node }

/-- What is read of a node as a backend, as if the node were all there is to the document. -/
def entry (document : Document) (files : Files) (node : Node) : Logged (Except Fault Named) :=
  (Named.read (document.alone node)).run files

theorem alike_alone {document : Document} {node : Node} (holds : document.Holds node)
    (parent : Path) (index : Nat) {room : Nat} (fits : room ≤ deepest) :
    Cursor.Alike document node (.item parent index) (document.item parent index room node)
      (document.alone node) :=
  .intro holds .here .root fits false

end Document

def entryPath (list : String) (index : Nat) : String := list ++ "[" ++ toString index ++ "]"

theorem write_item (parent : Path) (index : Nat) :
    (Path.item parent index).write = entryPath parent.write index := rfl

theorem shown_item (parent : Path) (index : Nat) :
    (Path.item parent index).shown = some (Path.item parent index).write := by
  have last : (Path.item parent index).write.toList.getLast? = some ']' := by
    rw [write_item, entryPath, String.toList_append, List.getLast?_append]
    rfl
  have other : (Path.item parent index).write ≠ Path.root.write := by
    intro same
    rw [same] at last
    cases last
  simp only [Path.shown, other, if_false]

variable {document : Document} {files : Files}

/-- What comes of an entry in its place, unless a limit is reached. -/
inductive ReadsEntry (document : Document) (files : Files) (path : String) (item : Node) :
    Outcome Named → Prop where
  | limit {outcome : Outcome Named} (limited : outcome.Limited) :
    ReadsEntry document files path item outcome
  | ok {named : Named} (ok : (document.entry files item).value = .ok named) (later : Nat) :
    ReadsEntry document files path item ⟨.ok named, (document.entry files item).log, later⟩
  | error {fault : Fault} (failed : (document.entry files item).value = .error fault) {text : String}
      (placed : path.toList <+: text.toList) (cause : Mismatch) (later : Nat) :
    ReadsEntry document files path item
      ⟨.error (.mismatch (some text) cause), (document.entry files item).log, later⟩

theorem reads_entry (whole : document.Whole) {node : Node} (holds : document.Holds node)
    (parent : Path) (index : Nat) {room : Nat} (fits : room ≤ deepest) (files : Files)
    (followed : Nat) :
    ReadsEntry document files (entryPath parent.write index) node
      (Named.read (document.item parent index room node) files followed) := by
  have inner : Path.item parent index ≠ .root := nofun
  have apart := Named.apart_read whole inner (Document.alike_alone holds parent index fits) files
    followed 0 (Nat.zero_le _)
  have placed (path : Option String) (cause : Mismatch)
      (failed : (Named.read (document.item parent index room node) files followed).result =
        .error (.mismatch path cause)) : ∃ text, path = some text := by
    change (Reading.onFault (Fault.placed (Path.item parent index).shown) _ files followed).result =
      _ at failed
    rw [shown_item] at failed
    exact Reading.path_of_onFault failed
  have entry : document.entry files node = ⟨(Named.read (document.alone node) files 0).result,
      (Named.read (document.alone node) files 0).log⟩ := rfl
  generalize Named.read (document.item parent index room node) files followed = inPlace at apart placed ⊢
  generalize Named.read (document.alone node) files 0 = alone at apart entry
  obtain ⟨result, log, later⟩ := inPlace
  obtain ⟨other, lines, last⟩ := alone
  dsimp only at apart placed entry
  rcases apart with limited | ⟨same, -, agrees⟩
  · exact .limit limited
  · subst same
    -- Of the path of a mismatch only the beginning is known; alone it has another one.
    cases agrees with
    | ok same =>
      subst same
      have ok : (document.entry files node).value = .ok _ := congrArg Logged.value entry
      have lines : log = (document.entry files node).log := (congrArg Logged.log entry).symm
      subst lines
      exact .ok ok later
    | @mismatch path _ cause within =>
      obtain ⟨text, rfl⟩ := placed path cause rfl
      have failed : (document.entry files node).value = .error _ := congrArg Logged.value entry
      have lines : log = (document.entry files node).log := (congrArg Logged.log entry).symm
      subst lines
      exact .error failed (within text rfl) cause later

theorem mapError_placed_none (result : Except Fault α) :
    result.mapError (Fault.placed none) = result := by
  cases result with
  | ok value => rfl
  | error fault =>
    cases fault with
    | broken cause => rfl
    | mismatch path cause => cases path <;> rfl

/-- An entry read alone is finished once its name and its fields are found. -/
theorem Document.entry_eq {node : Node} {split : Option String × List (Buffer × Buffer)}
    {log : List Log.Line} {later : Nat}
    (found : Named.fields (document.alone node) files 0 = ⟨.ok split, log, later⟩) :
    document.entry files node =
      ⟨(Named.finish split files later).result, log ++ (Named.finish split files later).log⟩ := by
  have alone : document.entry files node =
      ⟨((Named.fields (document.alone node) >>= Named.finish) files 0).result.mapError
          (Fault.placed none),
        ((Named.fields (document.alone node) >>= Named.finish) files 0).log⟩ := by
    rw [Document.entry, Named.read_eq]
    rfl
  rw [alone, mapError_placed_none, Reading.bind_at_ok found]

/-- What files make no difference to an entry alone, make none to it in its place. -/
theorem entry_fixed (whole : document.Whole) {node : Node} (holds : document.Holds node)
    (parent : Path) (index : Nat) {room : Nat} (fits : room ≤ deepest) (followed : Nat)
    {others : Files} (same : document.entry others node = document.entry files node) :
    Named.read (document.item parent index room node) others followed =
      Named.read (document.item parent index room node) files followed := by
  have inner : Path.item parent index ≠ .root := nofun
  have apart := Named.apart_fields whole inner (Document.alike_alone holds parent index fits) files
    followed 0 (Nat.zero_le _)
  have blind := (Named.blind_fields (document.item parent index room node) files others followed).1
  have blindAlone := (Named.blind_fields (document.alone node) files others 0).1
  rw [Named.read_eq]
  change Reading.onFault _ _ others followed = Reading.onFault _ _ files followed
  simp only [Reading.onFault]
  -- The fields are found without a file; what they make is the same wherever the node stands.
  cases found : Named.fields (document.item parent index room node) files followed with
  | mk result log later =>
  rw [found] at blind apart
  cases result with
  | error fault => rw [Reading.bind_at_error found, Reading.bind_at_error blind]
  | ok split =>
    rw [Reading.bind_at_ok found, Reading.bind_at_ok blind]
    obtain ⟨fault, failed, -⟩ | ⟨-, -, agrees⟩ := apart
    · cases failed
    cases foundAlone : Named.fields (document.alone node) files 0 with
    | mk result lines last =>
    rw [foundAlone] at agrees blindAlone
    cases agrees with
    | ok like =>
      subst like
      obtain ⟨made, more, steady, -⟩ := Named.steady_finish split files
      obtain ⟨other, rest, steadyOther, -⟩ := Named.steady_finish split others
      rw [Document.entry_eq foundAlone, Document.entry_eq blindAlone, steady, steadyOther] at same
      obtain ⟨rfl, logs⟩ := Logged.mk.inj same
      obtain rfl := List.append_cancel_left logs
      rw [steady, steadyOther]

/-- What comes of a list of entries, unless a limit is reached: all of them, or the fault of the first that
fails, which no entry behind it has a part in. What is logged is what each one read logs alone. -/
inductive ReadsEach (document : Document) (files : Files) (list : String) (index : Nat)
    (items : List Node) (Made : α → List Named → Prop) (run : Files → Outcome α) : Prop where
  | limit (limited : (run files).Limited)
  | all {backends : List Named} {value : α} (made : Made value backends)
      (each : List.Forall₂ (fun item named => (document.entry files item).value = .ok named) items
        backends) (later : Nat)
      (ran : run files =
        ⟨.ok value, items.flatMap fun item => (document.entry files item).log, later⟩)
  | stops {before after : List Node} {item : Node} (split : items = before ++ item :: after)
      (earlier : ∀ one ∈ before, ∃ named, (document.entry files one).value = .ok named)
      {fault : Fault} (failed : (document.entry files item).value = .error fault) {text : String}
      (placed : (entryPath list (index + before.length)).toList <+: text.toList)
      (cause : Mismatch) (later : Nat)
      (ran : run files = ⟨.error (.mismatch (some text) cause),
        (before ++ [item]).flatMap fun item => (document.entry files item).log, later⟩)
      (fixed : ∀ others, (∀ one ∈ before ++ [item],
        document.entry others one = document.entry files one) → run others = run files)

/-- One entry more, in front of the others. -/
theorem ReadsEach.cons {first : Reading Named} {rest : Reading (List Named)} {list : String}
    {index followed : Nat} {item : Node} {items : List Node}
    (entry : ReadsEntry document files (entryPath list index) item (first files followed))
    (entryFixed : ∀ others, document.entry others item = document.entry files item →
      first others followed = first files followed)
    (goesOn : ∀ later, ReadsEach document files list (index + 1) items Eq fun files =>
      rest files later) :
    ReadsEach document files list index (item :: items) Eq fun files =>
      (first >>= fun named => rest >>= fun others => pure (named :: others)) files followed := by
  generalize found : first files followed = outcome at entry entryFixed
  cases entry with
  | limit limited =>
    rw [← found] at limited
    exact .limit (Reading.limited_bind limited _)
  | @error fault failed text placed cause later =>
    -- The fault ends it all before another entry is looked at.
    have ran (others : Files) (agree : document.entry others item = document.entry files item) :
        (first >>= fun named => rest >>= fun others => pure (named :: others)) others followed = _ :=
      Reading.bind_at_error (entryFixed others agree)
    have here : item :: items = [] ++ item :: items := rfl
    refine .stops here nofun failed placed cause later ((ran files rfl).trans ?_) fun others agree => ?_
    · rw [List.nil_append, List.flatMap_singleton]
    · exact (ran others (agree item List.mem_cons_self)).trans (ran files rfl).symm
  | @ok named ok later =>
    have ran (others : Files) (agree : document.entry others item = document.entry files item) :
        (first >>= fun named => rest >>= fun others => pure (named :: others)) others followed = _ :=
      Reading.bind_at_ok (entryFixed others agree)
    cases goesOn later with
    | limit limited =>
      refine .limit ?_
      rw [ran files rfl]
      exact Reading.limited_bind limited _
    | @all backends value made each last ranRest =>
      subst made
      refine .all rfl (.cons ok each) last ((ran files rfl).trans ?_)
      rw [Reading.bind_at_ok ranRest, List.flatMap_cons]
      simp only [pure, Reading.succeed, List.append_nil]
    | @stops before after one split earlier fault failed text placed cause last ranRest fixedRest =>
      -- The entry that fails has one more before it.
      have longer : item :: items = (item :: before) ++ one :: after := by
        rw [split, List.cons_append]
      have places : index + 1 + before.length = index + (item :: before).length := by
        rw [List.length_cons]
        omega
      rw [places] at placed
      refine .stops longer (List.forall_mem_cons.2 ⟨⟨named, ok⟩, earlier⟩) failed placed cause last
        ((ran files rfl).trans ?_) fun others agree => ?_
      · rw [Reading.bind_at_error ranRest, List.cons_append, List.flatMap_cons]
      · have agreeHead := agree item List.mem_cons_self
        have agreeRest := fixedRest others fun one member => agree one (List.mem_cons_of_mem _ member)
        rw [ran others agreeHead, ran files rfl, Reading.bind_at_error ranRest,
          Reading.bind_at_error (agreeRest.trans ranRest)]

theorem reads_each (whole : document.Whole) {cursor : Cursor} (same : cursor.document = document)
    {room : Nat} (fits : room ≤ deepest) {items : List Node}
    (holds : ∀ item ∈ items, document.Holds item) (index followed : Nat) :
    ReadsEach document files cursor.path.write index items Eq fun files =>
      Reading.each Named.read (cursor.elements room index items) files followed := by
  subst same
  -- Each entry is reached behind as many aliases as those before it took.
  induction items generalizing index followed with
  | nil => exact .all rfl .nil followed rfl
  | cons item rest ih =>
    have holdsItem := holds item List.mem_cons_self
    refine .cons (reads_entry whole holdsItem cursor.path index fits files followed)
      (fun others => entry_fixed whole holdsItem cursor.path index fits followed) fun later => ?_
    exact ih (index + 1) later fun one member => holds one (List.mem_cons_of_mem _ member)

end Yaml

end KvTables
