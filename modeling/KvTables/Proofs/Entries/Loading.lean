import KvTables.Backend.RocksDb
import KvTables.Proofs.Agreement.Readings
import KvTables.Proofs.Json.Unbroken
import KvTables.Proofs.Reading.Faithful
import KvTables.Proofs.Reading.Settled

/-! What comes of loading a file of parameters.

The file cannot be read, or it is no JSON object, or its fields are the parameters. In each case one line
is logged.
-/

set_option autoImplicit false

namespace KvTables

namespace Json

open Reading (Fails)

theorem ofExcept_bind {α β : Type} (first : Except SyntaxError α)
    (next : α → Except SyntaxError β) :
    Reading.ofExcept (first >>= next) =
      (Reading.ofExcept first >>= fun value => Reading.ofExcept (next value)) := by
  cases first <;> rfl

theorem ok_of_ofExcept {α : Type} {computed : Except SyntaxError α} {files : Files} {followed : Nat}
    {value : α} (ok : (Reading.ofExcept computed files followed).result = .ok value) :
    computed = .ok value := by
  cases computed with
  | ok found => exact congrArg Except.ok (Except.ok.inj ok)
  | error cause => cases ok

namespace Cursor

theorem pairs_entriesOf (pairs : List (Leaf String × Draft)) (tail : Tail) (room : Nat) :
    Reading.pairs (entriesOf pairs tail room).pairs =
      Reading.ofExcept (Draft.pairsToJson room pairs) := by
  induction pairs with
  | nil => rfl
  | cons pair rest ih =>
    obtain ⟨key, value⟩ := pair
    rw [Draft.pairsToJson, ofExcept_bind]
    refine bind_congr fun text => ?_
    rw [ofExcept_bind]
    refine bind_congr fun tree => ?_
    rw [ofExcept_bind]
    exact congrArg (· >>= _) ih

/-- The draft of an object is read as an object as its fields are read as trees. -/
theorem object_draft (pairs : List (Leaf String × Draft)) (tail : Tail) (room : Nat) :
    Reading.object (⟨.object pairs tail, room + 1⟩ : Cursor) = Reading.ofExcept do
      let fields ← Draft.pairsToJson room pairs
      tail.next
      return Object.ofFields fields := by
  change (Reading.pairs (entriesOf pairs tail room).pairs >>= fun fields =>
    Reading.ofExcept tail.next >>= fun _ => pure (Object.ofFields fields)) = _
  rw [pairs_entriesOf, ofExcept_bind]
  refine bind_congr fun fields => ?_
  rw [ofExcept_bind]
  rfl

theorem fails_object {draft : Draft} (other : ∀ pairs tail, draft ≠ .object pairs tail) (room : Nat) :
    Fails (Reading.object (⟨draft, room⟩ : Cursor)) := by
  have refused : Fails (entries "a map" ⟨draft, room⟩) := by
    cases draft with
    | object pairs tail => exact absurd rfl (other pairs tail)
    | _ => exact fails_unexpected _ _
  exact refused.bind _

/-- What is read as an object has the tree of an object. -/
theorem toJson_of_object {draft : Draft} {room : Nat} {files : Files} {followed : Nat}
    {params : Object}
    (ok : (Reading.object (⟨draft, room⟩ : Cursor) files followed).result = .ok params) :
    ∃ fields, draft.toJson room = .ok (.obj fields) := by
  by_cases shaped : ∃ pairs tail, draft = .object pairs tail
  · obtain ⟨pairs, tail, rfl⟩ := shaped
    cases room with
    | zero => cases ok
    | succ room =>
      rw [object_draft] at ok
      obtain ⟨fields, read, closes⟩ := ok_of_bind (ok_of_ofExcept ok)
      obtain ⟨done, next, -⟩ := ok_of_bind closes
      refine ⟨fields, ?_⟩
      rw [Draft.toJson, read]
      change (tail.next >>= fun _ => Except.ok (Json.obj fields)) = _
      rw [next]
      rfl
  · have other : ∀ pairs tail, draft ≠ .object pairs tail :=
      fun pairs tail same => shaped ⟨pairs, tail, same⟩
    exact absurd ok (fails_object other room files followed params)

end Cursor

/-- A text is read as an object if and only if it writes one. -/
theorem readText_object {content : String} {files : Files} {params : Object} :
    ((readText Reading.object content).run files).value = .ok params ↔
      ∃ fields, ofText content = .ok (.obj fields) ∧ params = .ofFields fields := by
  have written {fields : List (String × Json)} (parsed : ofText content = .ok (.obj fields)) :
      readText Reading.object content = pure (.ofFields fields) := by
    rw [readText_of_ofText parsed]
    exact Cursor.faithful.object (shows_of_ofText parsed)
  constructor
  · intro ok
    -- What has been read is closed, and nothing but blanks follows it.
    have parsed : ∃ fields, ofText content = .ok (.obj fields) := by
      cases drafted : Draft.ofText content with
      | mk draft rest =>
        change (readText Reading.object content files 0).result = .ok params at ok
        rw [readText, drafted] at ok
        obtain ⟨read, object, ends, -⟩ := Reading.bind_ok ok
        obtain ⟨fields, tree⟩ := Cursor.toJson_of_object object
        refine ⟨fields, ?_⟩
        simp only [ofText, drafted, tree]
        split at ends
        · next blank => rw [if_pos blank]
        · cases ends
    obtain ⟨fields, parsed⟩ := parsed
    refine ⟨fields, parsed, ?_⟩
    rw [written parsed] at ok
    exact (Except.ok.inj ok).symm
  · rintro ⟨fields, parsed, rfl⟩
    rw [written parsed]
    rfl

theorem not_obj_of_readText {content : String} {files : Files} {cause : Fault}
    (failed : ((readText Reading.object content).run files).value = .error cause)
    (fields : List (String × Json)) : ofText content ≠ .ok (.obj fields) := by
  intro parsed
  have ok : ((readText Reading.object content).run files).value = .ok (.ofFields fields) :=
    readText_object.2 ⟨fields, parsed, rfl⟩
  cases failed.symm.trans ok

theorem readText_of_not_obj {content : String} (files : Files)
    (other : ∀ fields, ofText content ≠ .ok (.obj fields)) :
    ∃ cause, ((readText Reading.object content).run files).value = .error cause := by
  cases read : ((readText Reading.object content).run files).value with
  | error cause => exact ⟨cause, rfl⟩
  | ok params =>
    obtain ⟨fields, parsed, -⟩ := readText_object.1 read
    exact absurd parsed (other fields)

end Json

namespace Backend.RocksDb

variable (path : String) {files : Files}

theorem fromPath_of_error {cause : ReadError} (unread : files.read path = .error cause) :
    fromPath path files = ⟨.error (.configRead path cause),
      [⟨.error, s!"Failed to read RocksDB config '{path}': " ++ cause.message⟩]⟩ := by
  rw [fromPath, unread]
  rfl

theorem fromPath_of_ok {content : String} (holds : files.read path = .ok content) :
    fromPath path files =
      match ((Json.readText Reading.object content).run files).value with
      | .error cause => ⟨.error (.configParse path cause),
          [⟨.error, s!"Failed to parse RocksDB config '{path}': " ++ cause.message .json⟩]⟩
      | .ok params => ⟨.ok ⟨params⟩,
          [⟨.debug, s!"Loaded {params.fields.length} RocksDB parameters from '{path}'"⟩]⟩ := by
  have silent : ((Json.readText Reading.object content).run files).log = [] :=
    (Json.Cursor.settled_readText Json.Cursor.settling.object content).log_run files
  rw [fromPath, holds]
  change Logged.bind _ _ = _
  generalize (Json.readText Reading.object content).run files = read at silent ⊢
  obtain ⟨value, log⟩ := read
  obtain rfl : log = [] := silent
  cases value <;> rfl

end Backend.RocksDb

end KvTables
