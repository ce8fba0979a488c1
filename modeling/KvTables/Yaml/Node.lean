import KvTables.Yaml.Token.Scan

/-! YAML documents as trees, up to the point where the text breaks.

An alias is kept as a number, so that a node may stand in several places and even within itself. The
number is that of the names known when the node it stands for was given its name; where two nodes
got the same number, the later one is meant.
-/

set_option autoImplicit false

namespace KvTables.Yaml

inductive Node where
  | scalar (style : Style) (tag : Option Tag) (text : String) (anchor : Option Nat)
  | alias (target : Nat)
  | sequence (tag : Option Tag) (items : List Node) (anchor : Option Nat)
  | mapping (tag : Option Tag) (pairs : List (Node × Node)) (anchor : Option Nat)
  /-- The document holds nothing at all. -/
  | nothing
  /-- The text breaks before the node that has to stand here. -/
  | missing
  deriving Repr

instance : Inhabited Node := ⟨.missing⟩

structure Document where
  root : Node
  /-- The nodes that aliases stand for, in document order. -/
  targets : List (Nat × Node)
  /-- The number of starts, ends, scalars and aliases in the document. -/
  events : Nat
  /-- Whether the text holds this document whole and nothing else. -/
  sound : Bool

namespace Node

def anchored (anchor : Option Nat) (node : Node) : List (Nat × Node) :=
  match anchor with
  | some number => [(number, node)]
  | none => []

mutual

/-- The nodes with a name, in document order. -/
def targets : Node → List (Nat × Node)
  | .scalar style tag text anchor => anchored anchor (.scalar style tag text anchor)
  | .alias _ => []
  | .sequence tag items anchor =>
    anchored anchor (.sequence tag items anchor) ++ targetsOfItems items
  | .mapping tag pairs anchor =>
    anchored anchor (.mapping tag pairs anchor) ++ targetsOfPairs pairs
  | .nothing => []
  | .missing => []

def targetsOfItems : List Node → List (Nat × Node)
  | [] => []
  | item :: rest => item.targets ++ targetsOfItems rest

def targetsOfPairs : List (Node × Node) → List (Nat × Node)
  | [] => []
  | (key, value) :: rest => key.targets ++ value.targets ++ targetsOfPairs rest

end

structure Build where
  tokens : List Token
  /-- What tag handles stand for. -/
  handles : List (String × Tag)
  /-- The numbers of names, one entry a name. -/
  names : List (String × Nat)
  events : Nat
  broken : Bool

namespace Build

def breakHere (build : Build) : Build := { build with broken := true }

def skip (build : Build) : Build := { build with tokens := build.tokens.tail }

def count (build : Build) : Build := { build with events := build.events + 1 }

def peek (build : Build) : Token := build.tokens.head?.getD .broken

def name (build : Build) : Option String → Option Nat × Build
  | none => (none, build)
  | some name =>
    let number := build.names.length
    let others := build.names.filter fun known => known.1 ≠ name
    (some number, { build with names := (name, number) :: others })

def emptyScalar (build : Build) : Node × Build := (.scalar .plain none "" none, build.count)

def resolveTag (build : Build) (handle : String) (suffix : Tag) : Option Tag :=
  if handle = "" then some suffix
  else (build.handles.lookup handle).map (· ++ suffix)

end Build

structure Properties where
  anchor : Option String
  tag : Option (String × Tag)

def properties (build : Build) : Properties × Build :=
  match build.tokens with
  | .anchor name :: .tag handle suffix :: rest =>
    (⟨some name, some (handle, suffix)⟩, { build with tokens := rest })
  | .tag handle suffix :: .anchor name :: rest =>
    (⟨some name, some (handle, suffix)⟩, { build with tokens := rest })
  | .anchor name :: rest => (⟨some name, none⟩, { build with tokens := rest })
  | .tag handle suffix :: rest => (⟨none, some (handle, suffix)⟩, { build with tokens := rest })
  | _ => (⟨none, none⟩, build)

/-- Where a node stands: in a flow collection, in a block, or as a part of a block mapping, where a
sequence need not be indented. -/
inductive Context where
  | flow | block | blockMapping
  deriving DecidableEq, Repr

mutual

def build : (fuel : Nat) → Context → Build → Node × Build
  | 0, _, state => (.missing, state.breakHere)
  | fuel + 1, context, state =>
    match state.tokens with
    | .alias name :: rest =>
      match state.names.lookup name with
      | some number => (.alias number, { state with tokens := rest }.count)
      | none => (.missing, state.breakHere)
    | _ =>
      let (written, state) := properties state
      match written.tag.map fun (handle, suffix) => state.resolveTag handle suffix with
      | some none => (.missing, state.breakHere)
      | resolved =>
        let tag := resolved.join
        let opened := state.name written.anchor
        match context, state.tokens with
        -- An item right below its key: the sequence shares the mapping's column.
        | .blockMapping, .blockEntry :: _ =>
          let (items, after) := indentless fuel opened.2.count
          (.sequence tag items opened.1, after)
        | _, .scalar style text :: _ =>
          (.scalar style tag text opened.1, opened.2.count.skip)
        | _, .flowSequenceStart :: _ =>
          let (items, after) := flowItems fuel true opened.2.count.skip
          (.sequence tag items opened.1, after)
        | _, .flowMappingStart :: _ =>
          let (pairs, after) := flowPairs fuel true opened.2.count.skip
          (.mapping tag pairs opened.1, after)
        | .block, .blockSequenceStart :: _ | .blockMapping, .blockSequenceStart :: _ =>
          let (items, after) := blockItems fuel opened.2.count.skip
          (.sequence tag items opened.1, after)
        | .block, .blockMappingStart :: _ | .blockMapping, .blockMappingStart :: _ =>
          let (pairs, after) := blockPairs fuel opened.2.count.skip
          (.mapping tag pairs opened.1, after)
        | _, .broken :: _ => (.missing, state.breakHere)
        | _, _ =>
          -- A name or a tag with nothing behind it stands on an empty scalar.
          if written.anchor.isSome || written.tag.isSome then
            (.scalar .plain tag "" opened.1, opened.2.count)
          else (.missing, state.breakHere)

/-- A node, or an empty scalar where one of some tokens stands instead. -/
def buildUnless (fuel : Nat) (context : Context) (absent : List Token) (state : Build) :
    Node × Build :=
  match fuel with
  | 0 => (.missing, state.breakHere)
  | fuel + 1 =>
    if absent.contains state.peek then state.emptyScalar else build fuel context state

/-- The value behind an indicator, if that stands here, and else an empty scalar. -/
def valueUnless (fuel : Nat) (context : Context) (absent : List Token) (state : Build) :
    Node × Build :=
  match fuel with
  | 0 => (.missing, state.breakHere)
  | fuel + 1 =>
    match state.peek with
    | .value => buildUnless fuel context absent state.skip
    | .broken => (.missing, state.breakHere)
    | _ => state.emptyScalar

def blockItems : (fuel : Nat) → Build → List Node × Build
  | 0, state => ([.missing], state.breakHere)
  | fuel + 1, state =>
    match state.peek with
    | .blockEntry =>
      let (item, state) := buildUnless fuel .block [.blockEntry, .blockEnd] state.skip
      if state.broken then ([item], state)
      else
        let (more, state) := blockItems fuel state
        (item :: more, state)
    | .blockEnd => ([], state.count.skip)
    | _ => ([.missing], state.breakHere)

/-- The items of a sequence that is not indented; it ends where no item starts. -/
def indentless : (fuel : Nat) → Build → List Node × Build
  | 0, state => ([.missing], state.breakHere)
  | fuel + 1, state =>
    match state.peek with
    | .blockEntry =>
      let (item, state) :=
        buildUnless fuel .block [.blockEntry, .key, .value, .blockEnd] state.skip
      if state.broken then ([item], state)
      else
        let (more, state) := indentless fuel state
        (item :: more, state)
    | .broken => ([.missing], state.breakHere)
    | _ => ([], state.count)

def blockPairs : (fuel : Nat) → Build → List (Node × Node) × Build
  | 0, state => ([(.missing, .missing)], state.breakHere)
  | fuel + 1, state =>
    let absent := [Token.key, .value, .blockEnd]
    match state.peek with
    | .key =>
      let (key, state) := buildUnless fuel .blockMapping absent state.skip
      if state.broken then ([(key, .missing)], state)
      else
        let (value, state) := valueUnless fuel .blockMapping absent state
        if state.broken then ([(key, value)], state)
        else
          let (more, state) := blockPairs fuel state
          ((key, value) :: more, state)
    | .blockEnd => ([], state.count.skip)
    | _ => ([(.missing, .missing)], state.breakHere)

/-- The items of a flow sequence. An item may be a single pair, announced by a question mark or
recognised by its colon. -/
def flowItems : (fuel : Nat) → (first : Bool) → Build → List Node × Build
  | 0, _, state => ([.missing], state.breakHere)
  | fuel + 1, first, state =>
    let goOn (item : Node) (state : Build) : List Node × Build :=
      if state.broken then ([item], state)
      else
        let (more, state) := flowItems fuel false state
        (item :: more, state)
    let itemOrEnd (state : Build) : List Node × Build :=
      match state.peek with
      | .flowSequenceEnd => ([], state.count.skip)
      | .key =>
        let (pair, state) := singlePair fuel state.count.skip
        goOn (.mapping none [pair] none) state
      | _ =>
        let (item, state) := build fuel .flow state
        goOn item state
    match first, state.peek with
    | _, .flowSequenceEnd => ([], state.count.skip)
    | true, _ => itemOrEnd state
    | false, .flowEntry => itemOrEnd state.skip
    | false, _ => ([.missing], state.breakHere)

/-- The pair that makes up an item of a flow sequence. Where its key is left out, the token in its
place is passed over. -/
def singlePair : (fuel : Nat) → Build → (Node × Node) × Build
  | 0, state => ((.missing, .missing), state.breakHere)
  | fuel + 1, state =>
    let (key, state) :=
      if [Token.value, .flowEntry, .flowSequenceEnd].contains state.peek then
        state.skip.emptyScalar
      else build fuel .flow state
    if state.broken then ((key, .missing), state)
    else
      let (value, state) := valueUnless fuel .flow [.flowEntry, .flowSequenceEnd] state
      if state.broken then ((key, value), state) else ((key, value), state.count)

def flowPairs : (fuel : Nat) → (first : Bool) → Build → List (Node × Node) × Build
  | 0, _, state => ([(.missing, .missing)], state.breakHere)
  | fuel + 1, first, state =>
    let goOn (key value : Node) (state : Build) : List (Node × Node) × Build :=
      if state.broken then ([(key, value)], state)
      else
        let (more, state) := flowPairs fuel false state
        ((key, value) :: more, state)
    let pairOrEnd (state : Build) : List (Node × Node) × Build :=
      match state.peek with
      | .flowMappingEnd => ([], state.count.skip)
      | .key =>
        let (key, state) := buildUnless fuel .flow [.value, .flowEntry, .flowMappingEnd] state.skip
        if state.broken then ([(key, .missing)], state)
        else
          let (value, state) := valueUnless fuel .flow [.flowEntry, .flowMappingEnd] state
          goOn key value state
      | _ =>
        let (key, state) := build fuel .flow state
        if state.broken then ([(key, .missing)], state)
        else
          match state.peek with
          | .broken => ([(key, .missing)], state.breakHere)
          | _ =>
            -- No colon is looked for behind a key that was not announced.
            let (value, state) := state.emptyScalar
            goOn key value state
    match first, state.peek with
    | _, .flowMappingEnd => ([], state.count.skip)
    | true, _ => pairOrEnd state
    | false, .flowEntry => pairOrEnd state.skip
    | false, _ => ([(.missing, .missing)], state.breakHere)

end

end Node

namespace Document

open Node (Build)

/-- The directives before a document: at most one version, of YAML 1.1 or 1.2, and each handle at
most once. -/
def directives : (version : Bool) → (handles : List (String × Tag)) → List Token →
    Option (List (String × Tag) × List Token)
  | version, handles, .version major minor :: rest =>
    if version || major ≠ 1 || !(minor = 1 || minor = 2) then none
    else directives true handles rest
  | version, handles, .tagHandle handle replacement :: rest =>
    if handles.any (·.1 == handle) then none
    else directives version ((handle, replacement) :: handles) rest
  | _, handles, rest => some (handles, rest)

def standardHandles : List (String × Tag) :=
  [("!", .mark), ("!!", .ofText "tag:yaml.org,2002:")]

def isLast : List Token → Bool
  | .documentEnd :: rest => isLast rest
  | [.textEnd] => true
  | _ => false

def ofNode (built : Node × Build) : Document where
  root := built.1
  targets := built.1.targets
  events := built.2.events
  sound := !built.2.broken && isLast built.2.tokens

def build (context : Node.Context) (handles : List (String × Tag)) (tokens : List Token) :
    Document :=
  ofNode (Node.build (8 * tokens.length + 8) context ⟨tokens, handles, [], 0, false⟩)

def unsound : Document := ⟨.missing, [], 0, false⟩

def ofTokens (tokens : List Token) : Document :=
  match tokens with
  | [.textEnd] => ⟨.nothing, [], 1, true⟩
  | .version _ _ :: _ | .tagHandle _ _ :: _ | .documentStart :: _ =>
    match directives false [] tokens with
    | some (handles, .documentStart :: rest) =>
      let handles := handles ++ standardHandles
      match rest with
      | .version _ _ :: _ | .tagHandle _ _ :: _ | .documentStart :: _ | .documentEnd :: _
      | .textEnd :: _ => ofNode (Build.emptyScalar ⟨rest, handles, [], 0, false⟩)
      | rest => build .block handles rest
    | _ => unsound
  | tokens => build .block standardHandles tokens

def ofText (text : String) : Document := ofTokens (Token.ofText text)

end Document

end KvTables.Yaml
