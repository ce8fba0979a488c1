import KvTables.Yaml.FromText
import Mathlib.Data.List.Basic

/-! Nothing is missing in a sound document.

Each part of it is there, and each alias stands for a part of it that is no alias. The names known at any
point of the text are those known before and those of the nodes put together since.
-/

set_option autoImplicit false

namespace KvTables.Yaml

namespace Node

mutual

/-- All parts are there, and all numbers of aliases are known. -/
def Complete (known : Nat → Prop) : Node → Prop
  | .scalar _ _ _ _ => True
  | .alias number => known number
  | .sequence _ items _ => CompleteItems known items
  | .mapping _ pairs _ => CompletePairs known pairs
  | .nothing => False
  | .missing => False

def CompleteItems (known : Nat → Prop) : List Node → Prop
  | [] => True
  | item :: rest => item.Complete known ∧ CompleteItems known rest

def CompletePairs (known : Nat → Prop) : List (Node × Node) → Prop
  | [] => True
  | (key, value) :: rest => key.Complete known ∧ value.Complete known ∧ CompletePairs known rest

end

def flat (pairs : List (Node × Node)) : List Node := pairs.flatMap fun pair => [pair.1, pair.2]

variable {known : Nat → Prop}

theorem completeItems_iff {items : List Node} :
    CompleteItems known items ↔ ∀ item ∈ items, item.Complete known := by
  induction items with
  | nil => simp [CompleteItems]
  | cons item rest ih => simp [CompleteItems, ih]

theorem completePairs_iff {pairs : List (Node × Node)} :
    CompletePairs known pairs ↔ ∀ node ∈ flat pairs, node.Complete known := by
  induction pairs with
  | nil => simp [CompletePairs, flat]
  | cons pair rest ih =>
    simp only [flat, List.flatMap_cons] at ih ⊢
    simp [CompletePairs, ih]

theorem targetsOfItems_eq (items : List Node) : targetsOfItems items = items.flatMap targets := by
  induction items with
  | nil => rfl
  | cons item rest ih => simp [targetsOfItems, ih]

theorem targetsOfPairs_eq (pairs : List (Node × Node)) :
    targetsOfPairs pairs = (flat pairs).flatMap targets := by
  induction pairs with
  | nil => rfl
  | cons pair rest ih =>
    simp only [flat] at ih
    simp [targetsOfPairs, flat, ih]

mutual

theorem Complete.mono {other : Nat → Prop} (wider : ∀ number, known number → other number) :
    ∀ {node : Node}, node.Complete known → node.Complete other
  | .scalar _ _ _ _, _ => trivial
  | .alias number, complete => wider number complete
  | .sequence _ _ _, complete => CompleteItems.mono wider complete
  | .mapping _ _ _, complete => CompletePairs.mono wider complete

theorem CompleteItems.mono {other : Nat → Prop} (wider : ∀ number, known number → other number) :
    ∀ {items : List Node}, CompleteItems known items → CompleteItems other items
  | [], _ => trivial
  | _ :: _, ⟨first, rest⟩ => ⟨first.mono wider, CompleteItems.mono wider rest⟩

theorem CompletePairs.mono {other : Nat → Prop} (wider : ∀ number, known number → other number) :
    ∀ {pairs : List (Node × Node)}, CompletePairs known pairs → CompletePairs other pairs
  | [], _ => trivial
  | _ :: _, ⟨key, value, rest⟩ =>
    ⟨key.mono wider, value.mono wider, CompletePairs.mono wider rest⟩

end

/-- A number of a name, or of a node with a name. -/
def Knows (names : List (String × Nat)) (nodes : List Node) (number : Nat) : Prop :=
  (∃ name, (name, number) ∈ names) ∨ ∃ node, (number, node) ∈ nodes.flatMap targets

/-- What nodes that were put together are like, unless the text broke on the way. -/
def Makes (names : List (String × Nat)) (nodes : List Node) (after : Build) : Prop :=
  after.broken = false →
    (∀ node ∈ nodes, node.Complete (Knows names nodes)) ∧
    ∀ name number, (name, number) ∈ after.names → Knows names nodes number

namespace Makes

variable {names : List (String × Nat)} {after : Build}

theorem of_broken {nodes : List Node} (broken : after.broken = true) : Makes names nodes after := by
  intro sound
  rw [broken] at sound
  cases sound

/-- No nodes, and no name forgotten or made up. -/
protected theorem nil (same : after.names = names) : Makes names [] after := by
  refine fun _ => ⟨nofun, fun name number member => .inl ⟨name, ?_⟩⟩
  rw [← same]
  exact member

protected theorem append {first second : List Node} {between : Build}
    (sound : between.broken = false) (early : Makes names first between)
    (late : Makes between.names second after) : Makes names (first ++ second) after := by
  intro unbroken
  obtain ⟨completeFirst, namesBetween⟩ := early sound
  obtain ⟨completeSecond, namesAfter⟩ := late unbroken
  have ofFirst : ∀ number, Knows names first number → Knows names (first ++ second) number := by
    rintro number (known | ⟨node, member⟩)
    · exact .inl known
    · exact .inr ⟨node, by rw [List.flatMap_append]; exact List.mem_append_left _ member⟩
  have ofSecond : ∀ number, Knows between.names second number →
      Knows names (first ++ second) number := by
    rintro number (⟨name, known⟩ | ⟨node, member⟩)
    · exact ofFirst number (namesBetween name number known)
    · exact .inr ⟨node, by rw [List.flatMap_append]; exact List.mem_append_right _ member⟩
  refine ⟨fun node member => ?_, fun name number member => ofSecond number (namesAfter name number member)⟩
  rcases List.mem_append.1 member with member | member
  · exact (completeFirst node member).mono ofFirst
  · exact (completeSecond node member).mono ofSecond

protected theorem cons {node : Node} {rest : List Node} {between : Build}
    (sound : between.broken = false) (early : Makes names [node] between)
    (late : Makes between.names rest after) : Makes names (node :: rest) after :=
  .append sound early late

/-- A node around parts adds at most its own name to theirs. -/
protected theorem around {node : Node} {parts : List Node} {opened : List (String × Nat)}
    {anchor : Option Nat}
    (own : ∀ name number, (name, number) ∈ opened →
      (∃ name, (name, number) ∈ names) ∨ anchor = some number)
    (inside : Makes opened parts after)
    (whole : ∀ known, (∀ part ∈ parts, part.Complete known) → node.Complete known)
    (within : node.targets = anchored anchor node ++ parts.flatMap targets) :
    Makes names [node] after := by
  intro sound
  obtain ⟨complete, namesAfter⟩ := inside sound
  have wider : ∀ number, Knows opened parts number → Knows names [node] number := by
    rintro number (⟨name, known⟩ | ⟨part, member⟩)
    · rcases own name number known with known | rfl
      · exact .inl known
      · exact .inr ⟨node, by simp [within, anchored]⟩
    · exact .inr ⟨part, by
        rw [List.flatMap_singleton, within]
        exact List.mem_append_right _ member⟩
  refine ⟨fun one member => ?_, fun name number member => wider number (namesAfter name number member)⟩
  rw [List.mem_singleton.1 member]
  exact whole _ fun part member => (complete part member).mono wider

theorem sequence {items : List Node} {opened : List (String × Nat)} {anchor : Option Nat}
    {tag : Option Tag}
    (own : ∀ name number, (name, number) ∈ opened →
      (∃ name, (name, number) ∈ names) ∨ anchor = some number)
    (inside : Makes opened items after) : Makes names [.sequence tag items anchor] after :=
  .around own inside (fun _ all => completeItems_iff.2 all)
    (congrArg (anchored anchor _ ++ ·) (targetsOfItems_eq items))

theorem mapping {pairs : List (Node × Node)} {opened : List (String × Nat)} {anchor : Option Nat}
    {tag : Option Tag}
    (own : ∀ name number, (name, number) ∈ opened →
      (∃ name, (name, number) ∈ names) ∨ anchor = some number)
    (inside : Makes opened (flat pairs) after) : Makes names [.mapping tag pairs anchor] after :=
  .around own inside (fun _ all => completePairs_iff.2 all)
    (congrArg (anchored anchor _ ++ ·) (targetsOfPairs_eq pairs))

theorem scalar {style : Style} {tag : Option Tag} {text : String} {anchor : Option Nat}
    (own : ∀ name number, (name, number) ∈ after.names →
      (∃ name, (name, number) ∈ names) ∨ anchor = some number) :
    Makes names [.scalar style tag text anchor] after :=
  .around own (.nil rfl) (fun _ _ => trivial) (List.append_nil _).symm

theorem emptyScalar (state : Build) : Makes state.names [state.emptyScalar.1] state.emptyScalar.2 :=
  scalar fun name _ member => .inl ⟨name, member⟩

end Makes

theorem names_properties (state : Build) : (properties state).2.names = state.names := by
  unfold properties
  split <;> rfl

theorem mem_names_name {state : Build} (written : Option String) {name : String} {number : Nat}
    (member : (name, number) ∈ (state.name written).2.names) :
    (∃ name, (name, number) ∈ state.names) ∨ (state.name written).1 = some number := by
  cases written with
  | none => exact .inl ⟨name, member⟩
  | some given =>
    rcases List.mem_cons.1 member with same | member
    · exact .inr (congrArg some (Prod.mk.inj same).2.symm)
    · exact .inl ⟨name, (List.mem_filter.1 member).1⟩

/-- All that is put together with some fuel is complete. -/
structure Sound (fuel : Nat) : Prop where
  build (context : Context) (state : Build) :
    Makes state.names [(build fuel context state).1] (build fuel context state).2
  buildUnless (context : Context) (absent : List Token) (state : Build) :
    Makes state.names [(buildUnless fuel context absent state).1]
      (buildUnless fuel context absent state).2
  valueUnless (context : Context) (absent : List Token) (state : Build) :
    Makes state.names [(valueUnless fuel context absent state).1]
      (valueUnless fuel context absent state).2
  blockItems (state : Build) :
    Makes state.names (blockItems fuel state).1 (blockItems fuel state).2
  indentless (state : Build) :
    Makes state.names (indentless fuel state).1 (indentless fuel state).2
  blockPairs (state : Build) :
    Makes state.names (flat (blockPairs fuel state).1) (blockPairs fuel state).2
  flowItems (first : Bool) (state : Build) :
    Makes state.names (flowItems fuel first state).1 (flowItems fuel first state).2
  singlePair (state : Build) :
    Makes state.names (flat [(singlePair fuel state).1]) (singlePair fuel state).2
  flowPairs (first : Bool) (state : Build) :
    Makes state.names (flat (flowPairs fuel first state).1) (flowPairs fuel first state).2

namespace Sound

variable {fuel : Nat} (sound : Sound fuel)

include sound

theorem build_succ (context : Context) (state : Build) :
    Makes state.names [(Node.build (fuel + 1) context state).1]
      (Node.build (fuel + 1) context state).2 := by
  rw [Node.build]
  split
  · next name rest _ =>
    cases found : state.names.lookup name with
    | none => exact .of_broken rfl
    | some number =>
      -- An alias stands for a name given before it.
      obtain ⟨before, after, split, -⟩ := List.lookup_eq_some_iff.1 found
      refine fun _ => ⟨fun node member => ?_, fun name number member => .inl ⟨name, member⟩⟩
      rw [List.mem_singleton.1 member]
      exact .inl ⟨name, split ▸ List.mem_append_right _ List.mem_cons_self⟩
  · have same := names_properties state
    generalize properties state = read at same ⊢
    obtain ⟨written, rest⟩ := read
    dsimp only at same ⊢
    rw [← same]
    split
    · exact .of_broken rfl
    · have own (after : Build) (keeps : after.names = (rest.name written.anchor).2.names)
          (name : String) (number : Nat) (member : (name, number) ∈ after.names) :
          (∃ name, (name, number) ∈ rest.names) ∨ (rest.name written.anchor).1 = some number :=
        mem_names_name written.anchor (keeps ▸ member)
      -- The parts of a node know its own name as well.
      generalize rest.name written.anchor = opened at own ⊢
      split
      · exact .sequence (own _ rfl) (sound.indentless _)
      · exact .scalar (own _ rfl)
      · exact .sequence (own _ rfl) (sound.flowItems true _)
      · exact .mapping (own _ rfl) (sound.flowPairs true _)
      · exact .sequence (own _ rfl) (sound.blockItems _)
      · exact .sequence (own _ rfl) (sound.blockItems _)
      · exact .mapping (own _ rfl) (sound.blockPairs _)
      · exact .mapping (own _ rfl) (sound.blockPairs _)
      · exact .of_broken rfl
      · split
        · exact .scalar (own _ rfl)
        · exact .of_broken rfl

theorem buildUnless_succ (context : Context) (absent : List Token) (state : Build) :
    Makes state.names [(Node.buildUnless (fuel + 1) context absent state).1]
      (Node.buildUnless (fuel + 1) context absent state).2 := by
  rw [Node.buildUnless]
  split
  · exact .emptyScalar state
  · exact sound.build context state

theorem valueUnless_succ (context : Context) (absent : List Token) (state : Build) :
    Makes state.names [(Node.valueUnless (fuel + 1) context absent state).1]
      (Node.valueUnless (fuel + 1) context absent state).2 := by
  rw [Node.valueUnless]
  split
  · exact sound.buildUnless context absent state.skip
  · exact .of_broken rfl
  · exact .emptyScalar state

theorem blockItems_succ (state : Build) :
    Makes state.names (Node.blockItems (fuel + 1) state).1 (Node.blockItems (fuel + 1) state).2 := by
  rw [Node.blockItems]
  split
  · have item := sound.buildUnless .block [.blockEntry, .blockEnd] state.skip
    generalize Node.buildUnless fuel .block [.blockEntry, .blockEnd] state.skip = made at item ⊢
    obtain ⟨node, between⟩ := made
    dsimp only at item ⊢
    split
    · next broken => exact .of_broken broken
    · next whole => exact .cons (Bool.eq_false_iff.2 whole) item (sound.blockItems between)
  · exact .nil rfl
  · exact .of_broken rfl

theorem indentless_succ (state : Build) :
    Makes state.names (Node.indentless (fuel + 1) state).1 (Node.indentless (fuel + 1) state).2 := by
  rw [Node.indentless]
  split
  · have item := sound.buildUnless .block [.blockEntry, .key, .value, .blockEnd] state.skip
    generalize Node.buildUnless fuel .block [.blockEntry, .key, .value, .blockEnd] state.skip =
      made at item ⊢
    obtain ⟨node, between⟩ := made
    dsimp only at item ⊢
    split
    · next broken => exact .of_broken broken
    · next whole => exact .cons (Bool.eq_false_iff.2 whole) item (sound.indentless between)
  · exact .of_broken rfl
  · exact .nil rfl

theorem blockPairs_succ (state : Build) :
    Makes state.names (flat (Node.blockPairs (fuel + 1) state).1)
      (Node.blockPairs (fuel + 1) state).2 := by
  rw [Node.blockPairs]
  dsimp only
  split
  · have key := sound.buildUnless .blockMapping [.key, .value, .blockEnd] state.skip
    generalize Node.buildUnless fuel .blockMapping [.key, .value, .blockEnd] state.skip =
      made at key ⊢
    obtain ⟨node, between⟩ := made
    dsimp only at key ⊢
    split
    · next broken => exact .of_broken broken
    · next whole =>
      have value := sound.valueUnless .blockMapping [.key, .value, .blockEnd] between
      generalize Node.valueUnless fuel .blockMapping [.key, .value, .blockEnd] between =
        made at value ⊢
      obtain ⟨other, later⟩ := made
      dsimp only at value ⊢
      split
      · next broken => exact .of_broken broken
      · next wholeValue =>
        exact .cons (Bool.eq_false_iff.2 whole) key
          (.cons (Bool.eq_false_iff.2 wholeValue) value (sound.blockPairs later))
  · exact .nil rfl
  · exact .of_broken rfl

theorem pair {names : List (String × Nat)} {key : Node} {between : Build}
    (first : Makes names [key] between) (whole : between.broken = false) (context : Context)
    (absent : List Token) :
    Makes names [key, (Node.valueUnless fuel context absent between).1]
      (Node.valueUnless fuel context absent between).2 :=
  .cons whole first (sound.valueUnless context absent between)

theorem singlePair_succ (state : Build) :
    Makes state.names (flat [(Node.singlePair (fuel + 1) state).1])
      (Node.singlePair (fuel + 1) state).2 := by
  rw [Node.singlePair]
  have key : Makes state.names
      [(if [Token.value, .flowEntry, .flowSequenceEnd].contains state.peek then
        state.skip.emptyScalar else Node.build fuel .flow state).1]
      (if [Token.value, .flowEntry, .flowSequenceEnd].contains state.peek then
        state.skip.emptyScalar else Node.build fuel .flow state).2 := by
    split
    · exact .emptyScalar state.skip
    · exact sound.build .flow state
  generalize (if [Token.value, .flowEntry, .flowSequenceEnd].contains state.peek then
    state.skip.emptyScalar else Node.build fuel .flow state) = made at key ⊢
  obtain ⟨node, between⟩ := made
  dsimp only at key ⊢
  split
  · next broken => exact .of_broken broken
  · next whole =>
    have both := sound.pair key (Bool.eq_false_iff.2 whole) .flow [.flowEntry, .flowSequenceEnd]
    generalize Node.valueUnless fuel .flow [.flowEntry, .flowSequenceEnd] between = made at both ⊢
    obtain ⟨value, later⟩ := made
    dsimp only at both ⊢
    split
    · next broken => exact .of_broken broken
    · exact both

theorem flowItems_succ (first : Bool) (state : Build) :
    Makes state.names (Node.flowItems (fuel + 1) first state).1
      (Node.flowItems (fuel + 1) first state).2 := by
  unfold Node.flowItems
  extract_lets goOn itemOrEnd
  have continued (node : Node) (between : Build) (made : Makes state.names [node] between) :
      Makes state.names (goOn node between).1 (goOn node between).2 := by
    dsimp only [goOn]
    split
    · next broken => exact .of_broken broken
    · next whole => exact .cons (Bool.eq_false_iff.2 whole) made (sound.flowItems false between)
  have begun (entry : Build) (same : entry.names = state.names) :
      Makes state.names (itemOrEnd entry).1 (itemOrEnd entry).2 := by
    dsimp only [itemOrEnd]
    split
    · exact .nil same
    · refine continued _ _ ?_
      rw [← same]
      exact .mapping (fun name _ member => .inl ⟨name, member⟩) (sound.singlePair entry.count.skip)
    · refine continued _ _ ?_
      rw [← same]
      exact sound.build .flow entry
  split
  · exact .nil rfl
  · exact begun state rfl
  · exact begun state.skip rfl
  · exact .of_broken rfl

theorem flowPairs_succ (first : Bool) (state : Build) :
    Makes state.names (flat (Node.flowPairs (fuel + 1) first state).1)
      (Node.flowPairs (fuel + 1) first state).2 := by
  unfold Node.flowPairs
  extract_lets goOn pairOrEnd
  have continued (key value : Node) (between : Build)
      (made : Makes state.names [key, value] between) :
      Makes state.names (flat (goOn key value between).1) (goOn key value between).2 := by
    dsimp only [goOn]
    split
    · next broken => exact .of_broken broken
    · next whole => exact .append (Bool.eq_false_iff.2 whole) made (sound.flowPairs false between)
  have begun (entry : Build) (same : entry.names = state.names) :
      Makes state.names (flat (pairOrEnd entry).1) (pairOrEnd entry).2 := by
    dsimp only [pairOrEnd]
    split
    · exact .nil same
    · have key := sound.buildUnless .flow [.value, .flowEntry, .flowMappingEnd] entry.skip
      generalize Node.buildUnless fuel .flow [.value, .flowEntry, .flowMappingEnd] entry.skip =
        made at key ⊢
      obtain ⟨node, between⟩ := made
      dsimp only at key ⊢
      split
      · next broken => exact .of_broken broken
      · next whole =>
        refine continued _ _ _ (sound.pair ?_ (Bool.eq_false_iff.2 whole) _ _)
        rw [← same]
        exact key
    · have key := sound.build .flow entry
      generalize Node.build fuel .flow entry = made at key ⊢
      obtain ⟨node, between⟩ := made
      dsimp only at key ⊢
      split
      · next broken => exact .of_broken broken
      · next whole =>
        split
        · exact .of_broken rfl
        · refine continued _ _ _ (.cons (Bool.eq_false_iff.2 whole) ?_ (.emptyScalar between))
          rw [← same]
          exact key
  split
  · exact .nil rfl
  · exact begun state rfl
  · exact begun state.skip rfl
  · exact .of_broken rfl

end Sound

theorem sound (fuel : Nat) : Sound fuel := by
  induction fuel with
  | zero =>
    refine ⟨?_, ?_, ?_, ?_, ?_, ?_, ?_, ?_, ?_⟩ <;> intros <;> exact .of_broken rfl
  | succ fuel ih =>
    exact ⟨ih.build_succ, ih.buildUnless_succ, ih.valueUnless_succ, ih.blockItems_succ,
      ih.indentless_succ, ih.blockPairs_succ, ih.flowItems_succ, ih.singlePair_succ,
      ih.flowPairs_succ⟩

theorem complete_of_mem_anchored {node target : Node} {anchor : Option Nat} {number : Nat}
    (complete : node.Complete known) (apart : ∀ other, node ≠ .alias other)
    (member : (number, target) ∈ anchored anchor node) :
    target.Complete known ∧ ∀ other, target ≠ .alias other := by
  cases anchor with
  | none => cases member
  | some own =>
    obtain ⟨rfl, rfl⟩ := Prod.mk.inj (List.mem_singleton.1 member)
    exact ⟨complete, apart⟩

mutual

/-- The nodes with a name are as complete as the node they are in. -/
theorem complete_of_mem_targets {number : Nat} {target : Node} : ∀ {node : Node},
    node.Complete known → (number, target) ∈ node.targets →
      target.Complete known ∧ ∀ other, target ≠ .alias other
  | .scalar _ _ _ anchor, complete, member => complete_of_mem_anchored complete nofun member
  | .alias _, _, member => nomatch member
  | .sequence _ _ _, complete, member => by
    rw [targets] at member
    rcases List.mem_append.1 member with own | inner
    · exact complete_of_mem_anchored complete nofun own
    · exact completeItems_of_mem_targets complete inner
  | .mapping _ _ _, complete, member => by
    rw [targets] at member
    rcases List.mem_append.1 member with own | inner
    · exact complete_of_mem_anchored complete nofun own
    · exact completePairs_of_mem_targets complete inner

theorem completeItems_of_mem_targets {number : Nat} {target : Node} : ∀ {items : List Node},
    CompleteItems known items → (number, target) ∈ targetsOfItems items →
      target.Complete known ∧ ∀ other, target ≠ .alias other
  | _ :: _, ⟨first, rest⟩, member => by
    rw [targetsOfItems] at member
    rcases List.mem_append.1 member with inner | inner
    · exact complete_of_mem_targets first inner
    · exact completeItems_of_mem_targets rest inner

theorem completePairs_of_mem_targets {number : Nat} {target : Node} :
    ∀ {pairs : List (Node × Node)}, CompletePairs known pairs →
      (number, target) ∈ targetsOfPairs pairs →
      target.Complete known ∧ ∀ other, target ≠ .alias other
  | _ :: _, ⟨key, value, rest⟩, member => by
    rw [targetsOfPairs] at member
    rcases List.mem_append.1 member with inner | inner
    · rcases List.mem_append.1 inner with inner | inner
      · exact complete_of_mem_targets key inner
      · exact complete_of_mem_targets value inner
    · exact completePairs_of_mem_targets rest inner

end

end Node

namespace Document

/-- All parts of a node are there, and its aliases stand for nodes of the document. -/
def Holds (document : Document) (node : Node) : Prop :=
  node.Complete fun number => ∃ target, (number, target) ∈ document.targets

/-- What aliases stand for is complete, and no alias itself. -/
def Whole (document : Document) : Prop :=
  ∀ number, document.Holds (.alias number) →
    document.Holds (document.target number) ∧ ∀ other, document.target number ≠ .alias other

theorem mem_target {document : Document} {number : Nat} (holds : document.Holds (.alias number)) :
    (number, document.target number) ∈ document.targets := by
  obtain ⟨node, member⟩ := holds
  have named : (number, node) ∈ document.targets.filter (·.1 == number) :=
    List.mem_filter.2 ⟨member, beq_self_eq_true number⟩
  unfold target
  cases last : (document.targets.filter (·.1 == number)).getLast? with
  | none =>
    rw [List.getLast?_eq_none_iff] at last
    rw [last] at named
    cases named
  | some found =>
    obtain ⟨within, same⟩ := List.mem_filter.1 (List.mem_of_getLast? last)
    obtain ⟨other, target⟩ := found
    obtain rfl : other = number := eq_of_beq same
    exact within

/-- A document that is sound holds nothing at all, or all that it refers to. -/
def Fits (document : Document) : Prop :=
  document.sound → document.root = .nothing ∨ document.Whole ∧ document.Holds document.root

theorem fits_ofNode {built : Node × Node.Build} (made : Node.Makes [] [built.1] built.2) :
    (ofNode built).Fits := by
  intro sound
  have unbroken : built.2.broken = false := by
    have both := Bool.and_eq_true_iff.1 sound
    simpa using both.1
  have root : (ofNode built).Holds built.1 := by
    refine ((made unbroken).1 built.1 (List.mem_singleton_self _)).mono fun number known => ?_
    rcases known with ⟨name, member⟩ | ⟨target, member⟩
    · cases member
    · rw [List.flatMap_singleton] at member
      exact ⟨target, member⟩
  exact .inr ⟨fun number holds => Node.complete_of_mem_targets root (mem_target holds), root⟩

theorem fits_build (context : Node.Context) (handles : List (String × Tag)) (tokens : List Token) :
    (build context handles tokens).Fits :=
  fits_ofNode ((Node.sound _).build context ⟨tokens, handles, [], 0, false⟩)

theorem fits_started (tokens : List Token) : Fits (match directives false [] tokens with
    | some (handles, .documentStart :: rest) =>
      let handles := handles ++ standardHandles
      match rest with
      | .version _ _ :: _ | .tagHandle _ _ :: _ | .documentStart :: _ | .documentEnd :: _
      | .textEnd :: _ => ofNode (Node.Build.emptyScalar ⟨rest, handles, [], 0, false⟩)
      | rest => build .block handles rest
    | _ => unsound) := by
  have empty (handles : List (String × Tag)) (rest : List Token) :
      (ofNode (Node.Build.emptyScalar ⟨rest, handles, [], 0, false⟩)).Fits :=
    fits_ofNode (.emptyScalar _)
  split
  · dsimp only
    split
    -- Where another document starts or the text ends, the document is an empty scalar.
    · exact empty _ _
    · exact empty _ _
    · exact empty _ _
    · exact empty _ _
    · exact empty _ _
    · exact fits_build _ _ _
  · exact fun sound => absurd sound Bool.false_ne_true

theorem fits_ofTokens (tokens : List Token) : (ofTokens tokens).Fits := by
  unfold ofTokens
  split
  · exact fun _ => .inl rfl
  · next major minor rest => exact fits_started (.version major minor :: rest)
  · next handle replacement rest => exact fits_started (.tagHandle handle replacement :: rest)
  · next rest => exact fits_started (.documentStart :: rest)
  · exact fits_build _ _ _

/-- What aliases in a sound document of a container stand for is there. -/
theorem whole_of_sound {text : String} (sound : (ofText text).sound)
    (given : (ofText text).root ≠ .nothing) :
    (ofText text).Whole ∧ (ofText text).Holds (ofText text).root :=
  (fits_ofTokens (Token.ofText text) sound).resolve_left given

end Document

end KvTables.Yaml
