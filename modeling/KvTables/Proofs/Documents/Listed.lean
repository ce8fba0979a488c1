import KvTables.Proofs.Documents.Entries
import KvTables.Proofs.Reading.Records

/-! A document that lists backends is read up to the first entry that cannot be read.

What stands beside the list is passed over in silence, and what is asked of the list itself is answered from
the text alone.
-/

set_option autoImplicit false

namespace KvTables

open Backend

variable {α β : Type}

namespace Reading

/-- A value found in silence, whatever the files hold, unless a limit is reached. -/
def Finds (reading : Reading α) (value : α) : Prop :=
  ∀ followed, ∃ outcome : Outcome α, (∀ files, reading files followed = outcome) ∧
    (outcome.Limited ∨ ∃ later, outcome = ⟨.ok value, [], later⟩)

namespace Finds

protected theorem pure (value : α) : (pure value : Reading α).Finds value :=
  fun followed => ⟨_, fun _ => rfl, .inr ⟨followed, rfl⟩⟩

protected theorem tooDeep (value : α) : (broken .tooDeep : Reading α).Finds value :=
  fun _ => ⟨_, fun _ => rfl, .inl ⟨_, rfl, rfl⟩⟩

protected theorem follow (limit : Nat) : (follow limit).Finds () := by
  intro followed
  by_cases room : followed < limit
  · exact ⟨_, fun _ => if_pos room, .inr ⟨_, rfl⟩⟩
  · exact ⟨_, fun _ => if_neg room, .inl ⟨_, rfl, rfl⟩⟩

protected theorem bind {first : Reading α} {next : α → Reading β} {value : α} {result : β}
    (finds : first.Finds value) (goesOn : (next value).Finds result) :
    (first >>= next).Finds result := by
  intro followed
  obtain ⟨⟨found, log, later⟩, same, limited | ⟨_, ok⟩⟩ := finds followed
  · obtain ⟨fault, rfl, isLimit⟩ := limited
    exact ⟨_, fun files => bind_at_error (same files), .inl ⟨fault, rfl, isLimit⟩⟩
  · cases ok
    -- Nothing was logged so far, so that the outcome of the second is that of both.
    obtain ⟨outcome, sameNext, ends⟩ := goesOn later
    refine ⟨outcome, fun files => ?_, ends⟩
    rw [bind_at_ok (same files), sameNext files]
    rfl

protected theorem map {reading : Reading α} {value : α} (finds : reading.Finds value) (f : α → β) :
    (f <$> reading).Finds (f value) := by
  rw [map_eq_pure_bind]
  exact finds.bind (.pure (f value))

theorem placed {reading : Reading α} {value : α} (finds : reading.Finds value)
    (path : Option String) : (reading.onFault (Fault.placed path)).Finds value := by
  intro followed
  obtain ⟨outcome, same, ends⟩ := finds followed
  refine ⟨{ outcome with result := outcome.result.mapError (Fault.placed path) }, fun files => ?_, ?_⟩
  · simp only [onFault, same]
  · rcases ends with limited | ⟨later, rfl⟩
    · exact .inl (limited.placed path)
    · exact .inr ⟨later, rfl⟩

end Finds

end Reading

namespace Shape

variable {F : Type} [DecidableEq F] {Value : F → Type} {ν : Type} [Source ν] (shape : Shape F Value)
  (readField : (field : F) → ν → Reading (Value field))

theorem readPairs_append (before after : List (ν × ν)) (slots : Slots Value) :
    shape.readPairs readField (before ++ after) slots =
      shape.readPairs readField before slots >>= shape.readPairs readField after := by
  induction before generalizing slots with
  | nil => rfl
  | cons pair rest ih =>
    obtain ⟨key, value⟩ := pair
    rw [List.cons_append, readPairs, readPairs, bind_assoc]
    refine bind_congr fun name => ?_
    cases shape.find? name with
    | none =>
      rw [bind_assoc]
      exact bind_congr fun _ => ih slots
    | some field =>
      dsimp only
      split
      · rfl
      · rw [bind_assoc]
        exact bind_congr fun read => ih _

end Shape

namespace Yaml

namespace Node

variable {known : Nat → Prop}

mutual

/-- Where nothing is missing, all can be passed over. -/
theorem skip_of_complete : ∀ {node : Node}, node.Complete known → node.skip = .ok ()
  | .scalar _ _ _ _, _ => rfl
  | .alias _, _ => rfl
  | .sequence _ _ _, complete => skipItems_of_complete complete
  | .mapping _ _ _, complete => skipPairs_of_complete complete

theorem skipItems_of_complete : ∀ {items : List Node}, CompleteItems known items →
    skipItems items = .ok ()
  | [], _ => rfl
  | _ :: _, ⟨first, rest⟩ => by
    rw [skipItems, skip_of_complete first]
    exact skipItems_of_complete rest

theorem skipPairs_of_complete : ∀ {pairs : List (Node × Node)}, CompletePairs known pairs →
    skipPairs pairs = .ok ()
  | [], _ => rfl
  | (_, _) :: _, ⟨key, value, rest⟩ => by
    rw [skipPairs, skip_of_complete key, skip_of_complete value]
    exact skipPairs_of_complete rest

end

end Node

namespace Cursor

structure Resolves (cursor target : Cursor) : Prop where
  document : target.document = cursor.document
  node : target.node = cursor.document.resolved cursor.node
  path : target.path.write = cursor.path.write
  room : target.room = cursor.room

theorem finds_resolve (cursor : Cursor) :
    ∃ target, Resolves cursor target ∧ cursor.resolve.Finds target := by
  obtain ⟨document, node, path, room, isPayload⟩ := cursor
  by_cases named : ∃ number, node = .alias number
  · obtain ⟨number, rfl⟩ := named
    exact ⟨⟨document, document.target number, .alias path, room, false⟩, ⟨rfl, rfl, rfl, rfl⟩,
      (Reading.Finds.follow document.aliasLimit).bind (.pure _)⟩
  · have apart : ∀ number, node ≠ .alias number := fun number same => named ⟨number, same⟩
    have same : node = document.resolved node := by
      unfold Document.resolved
      split
      · next number => exact absurd rfl (apart number)
      · rfl
    refine ⟨⟨document, node, path, room, isPayload⟩, ⟨rfl, same, rfl, rfl⟩, ?_⟩
    rw [resolve_eq_pure apart]
    exact .pure _

theorem finds_text (cursor : Cursor) {text : String}
    (keyed : cursor.document.keyText? cursor.node = some text) (expected : String) :
    (cursor.text expected).Finds text := by
  obtain ⟨target, stands, finds⟩ := cursor.finds_resolve
  obtain ⟨style, tag, anchor, resolved⟩ := Document.resolved_of_keyText? keyed
  refine finds.bind (Reading.Finds.placed ?_ _)
  rw [stands.node, resolved]
  exact .pure text

theorem finds_enter (cursor : Cursor) (next : Nat → α) :
    ∃ room, room ≤ cursor.room ∧ (cursor.enter next).Finds (next room) := by
  unfold enter
  cases cursor.room with
  | zero => exact ⟨0, Nat.le_refl _, .tooDeep _⟩
  | succ room => exact ⟨room, Nat.le_succ room, .pure _⟩

/-- The elements of a list stand below the path of the list, also where an alias stands for it. -/
theorem finds_items (cursor : Cursor) {tag : Option Tag} {items : List Node} {anchor : Option Nat}
    (listed : cursor.document.resolved cursor.node = .sequence tag items anchor)
    (expected : String) : ∃ target room, Resolves cursor target ∧ room ≤ cursor.room ∧
      (cursor.items expected).Finds (itemsOf (target.elements room 0 items)) := by
  obtain ⟨target, stands, finds⟩ := cursor.finds_resolve
  obtain ⟨room, fewer, enters⟩ := finds_enter target fun room =>
    itemsOf (target.elements room 0 items)
  rw [stands.room] at fewer
  refine ⟨target, room, stands, fewer, finds.bind (Reading.Finds.placed ?_ _)⟩
  rw [stands.node, listed]
  exact enters

theorem finds_entries (cursor : Cursor) {tag : Option Tag} {pairs : List (Node × Node)}
    {anchor : Option Nat} (keyed : cursor.node = .mapping tag pairs anchor) (expected : String) :
    ∃ room, room ≤ cursor.room ∧
      (cursor.entries expected).Finds (entriesOf (cursor.pairs room pairs)) := by
  obtain ⟨room, fewer, enters⟩ := finds_enter cursor fun room => entriesOf (cursor.pairs room pairs)
  have apart (number : Nat) : cursor.node ≠ .alias number := by
    rw [keyed]
    exact nofun
  refine ⟨room, fewer, ?_⟩
  rw [entries, resolve_eq_pure apart, pure_bind, keyed]
  exact enters.placed _

theorem pairs_cons {cursor : Cursor} (top : cursor.path = .root) (room : Nat) (key value : Node)
    (rest : List (Node × Node)) : ∃ path : Path, path.write = Document.shownKey key ∧
      cursor.pairs room ((key, value) :: rest) =
        (cursor.within room cursor.path key, cursor.within room path value) ::
          cursor.pairs room rest := by
  cases key with
  | scalar style tag text anchor => exact ⟨.key cursor.path text, by rw [top]; rfl, rfl⟩
  | _ => exact ⟨.unknown cursor.path, by rw [top]; rfl, rfl⟩

end Cursor

variable {document : Document} {files : Files} {list : String} {index : Nat} {items : List Node}

namespace ReadsEach

variable {Made : α → List Named → Prop} {Then : β → List Named → Prop}

theorem placed {reading : Reading α} {followed : Nat}
    (reads : ReadsEach document files list index items Made fun files => reading files followed)
    (path : Option String) : ReadsEach document files list index items Made fun files =>
      reading.onFault (Fault.placed path) files followed := by
  cases reads with
  | limit limited => exact .limit (limited.placed path)
  | all made each later ran =>
    refine .all made each later ?_
    simp only [Reading.onFault, ran]
    rfl
  | stops split earlier failed placed cause later ran fixed =>
    refine .stops split earlier failed placed cause later ?_ fun others agree => ?_
    · simp only [Reading.onFault, ran]
      rfl
    · have same := fixed others agree
      simp only [Reading.onFault, same]

/-- What is found before the entries are read is found in silence. -/
theorem after {first : Reading β} {next : β → Reading α} {value : β} (finds : first.Finds value)
    (reads : ∀ later, ReadsEach document files list index items Made fun files =>
      next value files later) (followed : Nat) :
    ReadsEach document files list index items Made fun files => (first >>= next) files followed := by
  obtain ⟨outcome, same, limited | ⟨later, rfl⟩⟩ := finds followed
  · rw [← same files] at limited
    exact .limit (Reading.limited_bind limited next)
  · have run : (fun files => (first >>= next) files followed) = fun files =>
        next value files later := by
      funext files
      rw [Reading.bind_at_ok (same files)]
      rfl
    rw [run]
    exact reads later

/-- What is found once the entries are read. -/
theorem before {first : Reading α} {next : α → Reading β} {followed : Nat}
    (reads : ReadsEach document files list index items Made fun files => first files followed)
    (finds : ∀ value backends, Made value backends → ∃ result, Then result backends ∧
      (next value).Finds result) :
    ReadsEach document files list index items Then fun files => (first >>= next) files followed := by
  cases reads with
  | limit limited => exact .limit (Reading.limited_bind limited next)
  | @all backends value made each later ran =>
    obtain ⟨result, made, found⟩ := finds value backends made
    obtain ⟨outcome, same, limited | ⟨last, rfl⟩⟩ := found later
    · refine .limit ?_
      rw [Reading.bind_at_ok ran, same]
      exact limited
    · refine .all made each last ?_
      rw [Reading.bind_at_ok ran, same, List.append_nil]
  | stops split earlier failed placed cause later ran fixed =>
    refine .stops split earlier failed placed cause later (Reading.bind_at_error ran) ?_
    intro others agree
    exact (Reading.bind_at_error ((fixed others agree).trans ran)).trans
      (Reading.bind_at_error ran).symm

end ReadsEach

theorem reads_list (whole : document.Whole) (cursor : Cursor) (same : cursor.document = document)
    {tag : Option Tag} {anchor : Option Nat}
    (listed : document.resolved cursor.node = .sequence tag items anchor)
    (holds : ∀ item ∈ items, document.Holds item) (fits : cursor.room ≤ deepest) (followed : Nat) :
    ReadsEach document files cursor.path.write 0 items Eq fun files =>
      Reading.list Named.read cursor files followed := by
  subst same
  obtain ⟨target, room, stands, fewer, finds⟩ := cursor.finds_items listed "a sequence"
  refine ReadsEach.placed (ReadsEach.after finds (fun later => ?_) followed) _
  rw [← stands.path]
  refine ReadsEach.before (reads_each whole stands.document (Nat.le_trans fewer fits) holds 0 later) ?_
  rintro value _ rfl
  exact ⟨value, rfl, (Reading.Finds.pure ()).bind (.pure value)⟩

theorem Document.holds_resolved (whole : document.Whole) {node : Node}
    (holds : document.Holds node) : document.Holds (document.resolved node) := by
  unfold resolved
  split
  · next number => exact (whole number holds).1
  · exact holds

/-- A mapping with texts as keys, one of which stands before a list. -/
inductive Document.Lists (document : Document) (name : String) : (key : Node) →
    (items : List Node) → Prop where
  | intro {tag : Option Tag} {before after : List (Node × Node)} {key value : Node}
      {anchor : Option Nat} (root : document.root = .mapping tag (before ++ (key, value) :: after) anchor)
      (keyed : document.keyText? key = some name)
      (others : ∀ pair ∈ before ++ after, ∃ text, document.keyText? pair.1 = some text ∧ text ≠ name)
      {listTag : Option Tag} {items : List Node} {listAnchor : Option Nat}
      (listed : document.resolved value = .sequence listTag items listAnchor) :
    Lists document name key items

/-- The list is shown by its name, unless an alias stands for the name. -/
theorem Document.Lists.shownKey_eq {name : String} {key : Node} (lists : document.Lists name key items) :
    shownKey key = if key.isAlias then "?" else name := by
  obtain ⟨-, keyed, -, -⟩ := lists
  rcases key with ⟨style, tag, text, anchor⟩ | number | _ | _ | _ | _
  · exact Option.some.inj keyed
  · rfl
  all_goals cases keyed

end Yaml

namespace Backend.Document

open Yaml (ReadsEach)

variable {document : Yaml.Document} {files : Files}

theorem finds_others {cursor : Yaml.Cursor} (room : Nat) {pairs : List (Yaml.Node × Yaml.Node)}
    (holds : ∀ node ∈ Yaml.Node.flat pairs, cursor.document.Holds node)
    (others : ∀ pair ∈ pairs, ∃ text, cursor.document.keyText? pair.1 = some text ∧
      text ≠ "backends") (slots : Slots fun _ : Field => List Named) :
    (shape.readPairs readField (cursor.pairs room pairs) slots).Finds slots := by
  induction pairs with
  | nil => exact .pure slots
  | cons pair rest ih =>
    obtain ⟨key, value⟩ := pair
    obtain ⟨text, keyed, other⟩ := others (key, value) List.mem_cons_self
    have known : value.skip = .ok () := Yaml.Node.skip_of_complete
      (holds value (List.mem_append_left _ (List.mem_cons_of_mem _ List.mem_cons_self)))
    have unknown : shape.find? (.text text) = none := by
      simp [Shape.find?, shape, Ne.symm other]
    have name := (Yaml.Cursor.finds_text (cursor.within room cursor.path key) keyed
      "field identifier").map Name.text
    refine name.bind ?_
    rw [unknown]
    change (Reading.ofExcept value.skip >>= fun _ => _).Finds slots
    rw [known]
    exact ih (fun node member => holds node (List.mem_append_right _ member))
      fun pair member => others pair (List.mem_cons_of_mem _ member)

theorem reads_pairs (whole : document.Whole) (cursor : Yaml.Cursor)
    (same : cursor.document = document) (top : cursor.path = .root) {room : Nat}
    (fits : room ≤ Yaml.deepest) {before after : List (Yaml.Node × Yaml.Node)}
    {key value : Yaml.Node}
    (holds : ∀ node ∈ Yaml.Node.flat (before ++ (key, value) :: after), document.Holds node)
    (keyed : document.keyText? key = some "backends")
    (others : ∀ pair ∈ before ++ after, ∃ text, document.keyText? pair.1 = some text ∧
      text ≠ "backends")
    {tag : Option Yaml.Tag} {items : List Yaml.Node} {anchor : Option Nat}
    (listed : document.resolved value = .sequence tag items anchor) (followed : Nat) :
    ReadsEach document files (Yaml.Document.shownKey key) 0 items
      (fun slots backends => slots .backends = some backends) fun files =>
        shape.readPairs readField (cursor.pairs room (before ++ (key, value) :: after)) Slots.empty
          files followed := by
  subst same
  rw [Yaml.Node.flat, List.flatMap_append] at holds
  have holdsBefore : ∀ node ∈ Yaml.Node.flat before, cursor.document.Holds node :=
    fun node member => holds node (List.mem_append_left _ member)
  have holdsHere : ∀ node ∈ key :: value :: Yaml.Node.flat after, cursor.document.Holds node :=
    fun node member => holds node (List.mem_append_right _ member)
  have holdsList := Yaml.Document.holds_resolved whole
    (holdsHere value (List.mem_cons_of_mem _ List.mem_cons_self))
  rw [listed] at holdsList
  obtain ⟨path, shown, here⟩ := Yaml.Cursor.pairs_cons top room key value after
  have pairs : cursor.pairs room (before ++ (key, value) :: after) =
      cursor.pairs room before ++ cursor.pairs room ((key, value) :: after) := List.map_append
  -- First the fields before the list, then its key, the list and the fields behind it.
  rw [pairs, Shape.readPairs_append, here, ← shown]
  refine ReadsEach.after (finds_others room holdsBefore (fun pair member =>
    others pair (List.mem_append_left _ member)) Slots.empty) (fun later => ?_) followed
  have name := (Yaml.Cursor.finds_text (cursor.within room cursor.path key) keyed
    "field identifier").map Name.text
  refine ReadsEach.after name (fun last => ?_) later
  refine ReadsEach.before (Yaml.reads_list whole (cursor.within room path value) rfl listed
    (Yaml.Node.completeItems_iff.1 holdsList) fits last) ?_
  rintro backends _ rfl
  refine ⟨Slots.empty.fill .backends backends, Slots.fill_self _ _ _, ?_⟩
  exact finds_others room (fun node member => holdsHere node
    (List.mem_cons_of_mem _ (List.mem_cons_of_mem _ member)))
    (fun pair member => others pair (List.mem_append_right _ member)) _

theorem close_of_backends {slots : Slots fun _ : Field => List Named} {backends : List Named}
    (held : slots .backends = some backends) : shape.close slots = .ok fun _ => backends := by
  refine Shape.close_of_filled fun field => ?_
  cases field
  rw [Shape.withDefaults, held]
  rfl

theorem reads_fields (whole : document.Whole) (holds : document.Holds document.root)
    {key : Yaml.Node} {items : List Yaml.Node} (lists : document.Lists "backends" key items)
    (followed : Nat) :
    ReadsEach document files (Yaml.Document.shownKey key) 0 items
      (fun values backends => values .backends = backends) fun files =>
        shape.read readField (Yaml.Cursor.whole document) files followed := by
  obtain ⟨root, keyed, others, listed⟩ := lists
  obtain ⟨room, fits, entries⟩ := (Yaml.Cursor.whole document).finds_entries root
    "struct BackendsDocument"
  rw [root] at holds
  refine ReadsEach.placed (ReadsEach.after (entries.map Parts.entries) (fun later => ?_) followed) _
  refine ReadsEach.before (reads_pairs whole (Yaml.Cursor.whole document) rfl rfl fits
    (Yaml.Node.completePairs_iff.1 holds) keyed others listed later) fun slots backends held => ?_
  refine ⟨fun _ => backends, rfl, (Reading.Finds.pure ()).bind ?_⟩
  rw [close_of_backends held]
  exact .pure _

theorem reads_listed (whole : document.Whole) (holds : document.Holds document.root) {key : Yaml.Node}
    {items : List Yaml.Node} (lists : document.Lists "backends" key items) (followed : Nat) :
    ReadsEach document files (Yaml.Document.shownKey key) 0 items
      (fun found backends => found.backends = backends) fun files =>
        read (Yaml.Cursor.whole document) files followed := by
  refine ReadsEach.before (reads_fields whole holds lists followed) ?_
  rintro values _ rfl
  exact ⟨⟨values .backends⟩, rfl, .pure _⟩

end Backend.Document

end KvTables
