import KvTables.Proofs.Documents.Apart
import KvTables.Proofs.Documents.Aside

/-! What is asked of a node in its place is answered as it is when the node is a document of its own. -/

set_option autoImplicit false

namespace KvTables.Yaml

variable {α β : Type}

/-- What is read steadily is read the same anywhere. -/
theorem Apart.of_steady {base : Path} {reading : Reading α} (steady : reading.Steady fun _ => True) :
    Apart base Eq reading reading := by
  intro files followed fewer le
  obtain ⟨result, log, same, described⟩ := steady files
  rw [same, same]
  refine .inr ⟨rfl, le, ?_⟩
  cases result with
  | ok value => exact .ok rfl
  | error fault =>
    obtain ⟨cause, rfl⟩ := described
    exact .mismatch nofun

namespace Cursor

/-- Two cursors at one node: in a document, and in a document of the node alone. -/
inductive Alike (document : Document) (root : Node) (base : Path) : Cursor → Cursor → Prop where
  | intro {node : Node} (holds : document.Holds node) {path : Path} (below : base.Below path)
      (other : Path) {room more : Nat} (fewer : room ≤ more) (isPayload : Bool) :
    Alike document root base ⟨document, node, path, room, isPayload⟩
      ⟨{ document with root := root }, node, other, more, isPayload⟩

def Reached (document : Document) (root : Node) (base : Path) (one other : Cursor) : Prop :=
  Alike document root base one other ∧ ∀ number, one.node ≠ .alias number

def AlikePairs (document : Document) (root : Node) (base : Path) :
    List (Cursor × Cursor) → List (Cursor × Cursor) → Prop :=
  List.Forall₂ fun one other =>
    Alike document root base one.1 other.1 ∧ Alike document root base one.2 other.2

variable {document : Document} {root : Node} {base : Path} {one other : Cursor}
  {Like : α → β → Prop}

theorem resolve_eq_pure {cursor : Cursor} (apart : ∀ number, cursor.node ≠ .alias number) :
    cursor.resolve = pure cursor := by
  unfold resolve
  split
  · next number same => exact absurd same (apart number)
  · rfl

theorem apart_resolve (whole : document.Whole) (alike : Alike document root base one other) :
    Apart base (Reached document root base) one.resolve other.resolve := by
  obtain ⟨holds, below, path, fewer, isPayload⟩ := alike
  next node way room more =>
  by_cases named : ∃ number, node = .alias number
  · obtain ⟨number, rfl⟩ := named
    obtain ⟨target, apart⟩ := whole number holds
    refine (Apart.follow document.aliasLimit).bind fun _ _ _ => .pure ⟨?_, apart⟩
    exact .intro target below.target (.alias path) fewer false
  · have apart : ∀ number, node ≠ .alias number := fun number same => named ⟨number, same⟩
    rw [resolve_eq_pure apart, resolve_eq_pure apart]
    exact .pure ⟨.intro holds below path fewer isPayload, apart⟩

theorem apart_place (inner : base ≠ .root) (alike : Alike document root base one other)
    {first : Reading α} {second : Reading β} (apart : Apart base Like first second) :
    Apart base Like (one.place first) (other.place second) := by
  obtain ⟨holds, below, path, fewer, isPayload⟩ := alike
  exact apart.placed (fun text shown => below.shown_prefix inner shown) _

/-- A question is put to what an alias stands for, and placed there. -/
theorem apart_resolved (whole : document.Whole) (inner : base ≠ .root)
    (alike : Alike document root base one other) {ask : Cursor → Reading α}
    {question : Cursor → Reading β}
    (apart : ∀ one other, Reached document root base one other →
      Apart base Like (ask one) (question other)) :
    Apart base Like (one.resolve >>= fun target => target.place (ask target))
      (other.resolve >>= fun target => target.place (question target)) :=
  (apart_resolve whole alike).bind fun first second reached =>
    apart_place inner reached.1 (apart first second reached)

theorem apart_unexpected (reached : Reached document root base one other) (expected : String) :
    Apart base Like (one.unexpected expected) (other.unexpected expected) := by
  obtain ⟨⟨holds, below, path, fewer, isPayload⟩, apart⟩ := reached
  next node way room more =>
  rcases node with ⟨style, tag, text, anchor⟩ | number | _ | _ | _ | _
  · unfold unexpected
    dsimp only
    cases Core.found style tag text with
    | ok found => exact .mismatch _
    | error cause => exact .mismatch _
  · exact absurd rfl (apart number)
  · exact .mismatch _
  · exact .mismatch _
  · exact holds.elim
  · exact holds.elim

theorem apart_enter (alike : Alike document root base one other) {next : Nat → α} {after : Nat → β}
    (like : ∀ room more, room ≤ more → Like (next room) (after more)) :
    Apart base Like (one.enter next) (other.enter after) := by
  obtain ⟨holds, below, path, fewer, isPayload⟩ := alike
  next node way room more =>
  cases room with
  | zero => exact .tooDeep
  | succ room =>
    obtain ⟨more, rfl⟩ := Nat.exists_eq_succ_of_ne_zero (Nat.ne_zero_of_lt fewer)
    exact .pure (like room more (Nat.le_of_succ_le_succ fewer))

theorem alike_elements (alike : Alike document root base one other) {items : List Node}
    (holds : ∀ item ∈ items, document.Holds item) {room more : Nat} (fewer : room ≤ more)
    (index : Nat) :
    List.Forall₂ (Alike document root base) (one.elements room index items)
      (other.elements more index items) := by
  obtain ⟨-, below, path, -, isPayload⟩ := alike
  induction items generalizing index with
  | nil => exact .nil
  | cons item rest ih =>
    exact .cons (.intro (holds item List.mem_cons_self) (below.item index) _ fewer false)
      (ih (fun item member => holds item (List.mem_cons_of_mem _ member)) (index + 1))

theorem alike_pairs (alike : Alike document root base one other) {pairs : List (Node × Node)}
    (holds : ∀ node ∈ Node.flat pairs, document.Holds node) {room more : Nat} (fewer : room ≤ more) :
    AlikePairs document root base (one.pairs room pairs) (other.pairs more pairs) := by
  obtain ⟨-, below, path, -, isPayload⟩ := alike
  induction pairs with
  | nil => exact .nil
  | cons pair rest ih =>
    obtain ⟨key, value⟩ := pair
    have ofKey := holds key (List.mem_append_left _ List.mem_cons_self)
    have ofValue := holds value (List.mem_append_left _ (List.mem_cons_of_mem _ List.mem_cons_self))
    refine .cons ⟨.intro ofKey below _ fewer false, ?_⟩
      (ih fun node member => holds node (List.mem_append_right _ member))
    cases key with
    | scalar style tag text anchor => exact .intro ofValue (below.key text) _ fewer false
    | _ => exact .intro ofValue below.unknown _ fewer false

theorem Reached.node_eq (reached : Reached document root base one other) :
    other.node = one.node := by
  obtain ⟨⟨_, _, _, _, _⟩, _⟩ := reached
  rfl

theorem Reached.holds (reached : Reached document root base one other) :
    document.Holds one.node := by
  obtain ⟨⟨holds, _, _, _, _⟩, _⟩ := reached
  exact holds

theorem apart_text (whole : document.Whole) (inner : base ≠ .root)
    (alike : Alike document root base one other) (expected : String) :
    Apart base Eq (one.text expected) (other.text expected) := by
  refine apart_resolved whole inner alike fun one other reached => ?_
  rw [reached.node_eq]
  split
  · exact .pure rfl
  · exact apart_unexpected reached expected

def AlikeEntries (document : Document) (root : Node) (base : Path) (one other : Entries Cursor) :
    Prop :=
  AlikePairs document root base one.pairs other.pairs ∧ one.past = pure () ∧ other.past = pure ()

theorem apart_entries (whole : document.Whole) (inner : base ≠ .root)
    (alike : Alike document root base one other) (expected : String) :
    Apart base (AlikeEntries document root base) (one.entries expected)
      (other.entries expected) := by
  refine apart_resolved whole inner alike fun one other reached => ?_
  rw [reached.node_eq]
  split
  · next tag pairs anchor same =>
    have holds := reached.holds
    rw [same] at holds
    refine apart_enter reached.1 fun room more fewer => ⟨?_, rfl, rfl⟩
    exact alike_pairs reached.1 (Node.completePairs_iff.1 holds) fewer
  · split
    · exact .pure ⟨.nil, rfl, rfl⟩
    · exact apart_unexpected reached expected

theorem apart_dispatch (reached : Reached document root base one other) {variant : Reading α}
    {otherVariant : Reading β} {scalar : Found → Reading α} {otherScalar : Found → Reading β}
    {items : List Cursor → Reading α} {otherItems : List Cursor → Reading β}
    {pairs : List (Cursor × Cursor) → Reading α} {otherPairs : List (Cursor × Cursor) → Reading β}
    (named : Apart base Like variant otherVariant)
    (plain : ∀ found, Apart base Like (scalar found) (otherScalar found))
    (listed : ∀ first second, List.Forall₂ (Alike document root base) first second →
      Apart base Like (items first) (otherItems second))
    (keyed : ∀ first second, AlikePairs document root base first second →
      Apart base Like (pairs first) (otherPairs second)) :
    Apart base Like (one.dispatch variant scalar items pairs)
      (other.dispatch otherVariant otherScalar otherItems otherPairs) := by
  have alike := reached.1
  obtain ⟨⟨holds, below, path, fewer, isPayload⟩, apart⟩ := reached
  next node way room more =>
  have same : variant? ⟨{ document with root := root }, node, path, more, isPayload⟩ =
      variant? ⟨document, node, way, room, isPayload⟩ := rfl
  unfold dispatch
  rw [same]
  by_cases chosen : (variant? ⟨document, node, way, room, isPayload⟩).isSome
  · rw [if_pos chosen, if_pos chosen]
    exact named
  · rw [if_neg chosen, if_neg chosen]
    rcases node with ⟨style, tag, text, anchor⟩ | number | _ | _ | _ | _
    · dsimp only
      cases Core.found style (if isPayload = true then none else tag) text with
      | ok found => exact plain found
      | error cause => exact .mismatch cause
    · exact absurd rfl (apart number)
    · refine (apart_enter alike fun room more fewer =>
        alike_elements alike (Node.completeItems_iff.1 holds) fewer 0).bind listed
    · refine (apart_enter alike fun room more fewer =>
        alike_pairs alike (Node.completePairs_iff.1 holds) fewer).bind keyed
    · exact holds.elim
    · exact holds.elim

theorem steady_scalarToBuffer (expected : String) (found : Found) :
    (scalarToBuffer expected found).Steady fun _ => True := by
  change (scalarToBuffer expected found).Keeps .steady
  exact keeps_scalarToBuffer expected found

theorem apart_each {read other : Cursor → Reading α}
    (apart : ∀ one two, Alike document root base one two → Apart base Eq (read one) (other two))
    {first second : List Cursor} (alike : List.Forall₂ (Alike document root base) first second) :
    Apart base Eq (Reading.each read first) (Reading.each other second) := by
  induction alike with
  | nil => exact .pure rfl
  | cons item rest ih =>
    refine (apart _ _ item).bind fun value _ same => ?_
    subst same
    refine ih.bind fun others _ same => ?_
    subst same
    exact .pure rfl

theorem apart_bufferPairs {read other : Cursor → Reading Buffer}
    (apart : ∀ one two, Alike document root base one two → Apart base Eq (read one) (other two))
    {first second : List (Cursor × Cursor)} (alike : AlikePairs document root base first second) :
    Apart base Eq (bufferPairs read first) (bufferPairs other second) := by
  induction alike with
  | nil => exact .pure rfl
  | cons pair rest ih =>
    refine (apart _ _ pair.1).bind fun key _ same => ?_
    subst same
    refine (apart _ _ pair.2).bind fun value _ same => ?_
    subst same
    refine ih.bind fun others _ same => ?_
    subst same
    exact .pure rfl

/-- In its place, a node may be kept aside less deep. -/
theorem apart_buffer (whole : document.Whole) (inner : base ≠ .root) (depth : Nat) {deeper : Nat}
    (le : depth ≤ deeper) (expected : String) (alike : Alike document root base one other) :
    Apart base Eq (one.buffer depth expected) (other.buffer deeper expected) := by
  induction depth generalizing deeper one other expected with
  | zero =>
    unfold buffer
    refine apart_resolved whole inner alike fun one other reached => ?_
    exact apart_dispatch reached (.mismatch _) (fun found => .of_steady (steady_scalarToBuffer _ found))
      (fun _ _ _ => .tooDeep) fun _ _ _ => .tooDeep
  | succ depth ih =>
    obtain ⟨deeper, rfl⟩ := Nat.exists_eq_succ_of_ne_zero (Nat.ne_zero_of_lt le)
    have below := Nat.le_of_succ_le_succ le
    unfold buffer
    refine apart_resolved whole inner alike fun one other reached => ?_
    refine apart_dispatch reached (.mismatch _)
      (fun found => .of_steady (steady_scalarToBuffer _ found)) (fun first second alike => ?_)
      fun first second alike => ?_
    · exact (apart_each (fun _ _ => ih below _) alike).map fun _ _ => congrArg Buffer.list
    · exact (apart_bufferPairs (fun _ _ => ih below _) alike).map fun _ _ => congrArg Buffer.mapping

theorem apart_kept (whole : document.Whole) (inner : base ≠ .root) (expected : String)
    (alike : Alike document root base one other) :
    Apart base Eq (Source.buffer expected one) (Source.buffer expected other) := by
  have rooms : one.room ≤ other.room := by
    obtain ⟨_, _, _, fewer, _⟩ := alike
    exact fewer
  exact apart_buffer whole inner one.room rooms expected alike

end Cursor

end KvTables.Yaml

namespace KvTables.Backend.Named

open Yaml (Apart)
open Yaml.Cursor (AlikePairs)

variable {document : Yaml.Document} {root : Yaml.Node} {base : Yaml.Path}

theorem apart_splitId (whole : document.Whole) (inner : base ≠ .root)
    {first second : List (Yaml.Cursor × Yaml.Cursor)}
    (alike : AlikePairs document root base first second) (found : Option String) :
    Apart base Eq (splitId first found) (splitId second found) := by
  induction alike generalizing found with
  | nil => exact .pure rfl
  | @cons one two _ _ pair rest ih =>
    obtain ⟨key, value⟩ := one
    obtain ⟨otherKey, otherValue⟩ := two
    rw [splitId, splitId]
    refine (Yaml.Cursor.apart_text whole inner pair.1 _).bind fun text _ same => ?_
    subst same
    split
    · split
      · exact .mismatch _
      · refine (Yaml.Cursor.apart_text whole inner pair.2 _).bind fun id _ same => ?_
        subst same
        exact ih _
    · refine (Yaml.Cursor.apart_kept whole inner _ pair.2).bind fun kept _ same => ?_
      subst same
      refine (ih found).bind fun split _ same => ?_
      subst same
      exact .pure rfl

theorem apart_fields (whole : document.Whole) (inner : base ≠ .root) {one other : Yaml.Cursor}
    (alike : Yaml.Cursor.Alike document root base one other) :
    Apart base Eq (fields one) (fields other) := by
  refine (Yaml.Cursor.apart_entries whole inner alike _).bind fun entries others both => ?_
  obtain ⟨pairs, past, otherPast⟩ := both
  refine (apart_splitId whole inner pairs none).bind fun split _ same => ?_
  subst same
  rw [past, otherPast]
  exact .pure rfl

/-- A backend is read in its place in a document as it is read from a document of its own. -/
theorem apart_read (whole : document.Whole) (inner : base ≠ .root) {one other : Yaml.Cursor}
    (alike : Yaml.Cursor.Alike document root base one other) : Apart base Eq (read one) (read other) := by
  rw [read_eq, read_eq]
  refine Yaml.Cursor.apart_place inner alike ?_
  refine (apart_fields whole inner alike).bind fun split _ same => ?_
  subst same
  exact .of_steady (steady_finish split)

end KvTables.Backend.Named
