import KvTables.Proofs.Reading.Showing

/-! JSON text, JSON values and values kept aside show trees faithfully.

They differ in what they say of a value that does not fit, and in that values kept aside give names by
position; text also bounds how deep it nests.
-/

set_option autoImplicit false

namespace KvTables

open Reading (Leads Fails fails_mismatch fails_broken)

namespace Json

theorem lists (items : List Json) : Lists rendering.Shows (itemsOf items) items where
  past := rfl
  elements := List.forall₂_same.2 fun item _ => ⟨0, rfl, rfl⟩
  whole all := if_neg (Nat.not_lt.2 all)
  early {taken} some := by
    change Fails (if taken < items.length then _ else _)
    rw [if_pos some]
    exact fails_mismatch _

theorem faithful : Faithful rendering.Shows where
  toShowing := Rendering.showing fun _ _ => rfl
  count_eq := by rintro _ number ⟨_, rfl, -⟩; rfl
  record_list := by
    rintro _ items ⟨_, rfl, -⟩
    exact ⟨itemsOf items, fun _ => rfl, lists items⟩
  tagged_list := by
    rintro _ items ⟨_, rfl, -⟩
    exact ⟨itemsOf items, fun _ => rfl, lists items⟩
  choice_text := by rintro _ content ⟨_, rfl, -⟩ α visit; rfl
  choice_field := by
    rintro _ key inner ⟨_, rfl, -⟩
    refine ⟨⟨pure (.text key), inner.unit, pure inner, pure ()⟩, ⟨rfl, ⟨inner, rfl, 0, rfl, rfl⟩,
      ?_, ?_, rfl⟩, fun visit => rfl⟩
    · rintro rfl
      rfl
    · intro something
      cases inner <;> first | exact absurd rfl something | exact fails_mismatch _
  refuses := by
    rintro json _ ⟨_, rfl, -⟩ question unfit
    cases question <;> cases json <;> first
      | exact fails_mismatch _
      | cases unfit
  choice_fails := by
    rintro json _ ⟨_, rfl, -⟩ other others α visit closes
    cases json with
    | str text => exact absurd rfl (other text)
    | obj fields =>
      match fields with
      | [] => exact fails_mismatch _
      | [(key, inner)] => exact absurd rfl (others key inner)
      | _ :: _ :: _ => exact fails_mismatch _
    | _ => exact fails_mismatch _

end Json

namespace Buffer

theorem lists (items : List Json) :
    Lists rendering.Shows (itemsOf (ofItems items)) items where
  past := rfl
  elements := by
    change List.Forall₂ _ (ofItems items) items
    rw [ofItems_eq_map, List.forall₂_map_left_iff, List.forall₂_same]
    exact fun item _ => ⟨0, rfl, rfl⟩
  whole all := by
    refine if_neg (Nat.not_lt.2 ?_)
    rwa [ofItems_eq_map, List.length_map]
  early {taken} some := by
    have fewer : taken < (ofItems items).length := by rwa [ofItems_eq_map, List.length_map]
    change Fails (if taken < (ofItems items).length then _ else _)
    rw [if_pos fewer]
    exact fails_mismatch _

theorem faithful : Faithful rendering.Shows where
  toShowing := Rendering.showing fun _ _ => rfl
  count_eq := by rintro _ number ⟨_, rfl, -⟩; rfl
  record_list := by
    rintro _ items ⟨_, rfl, -⟩
    exact ⟨itemsOf (ofItems items), fun _ => rfl, lists items⟩
  tagged_list := by
    rintro _ items ⟨_, rfl, -⟩
    exact ⟨itemsOf (ofItems items), fun _ => rfl, lists items⟩
  choice_text := by rintro _ content ⟨_, rfl, -⟩ α visit; rfl
  choice_field := by
    rintro _ key inner ⟨_, rfl, -⟩
    refine ⟨⟨pure (.text key), (ofJson inner).unit, pure (ofJson inner), pure ()⟩,
      ⟨rfl, ⟨ofJson inner, rfl, 0, rfl, rfl⟩, ?_, ?_, rfl⟩, fun visit => rfl⟩
    · rintro rfl
      rfl
    · intro something
      cases inner <;> first | exact absurd rfl something | exact fails_mismatch _
  refuses := by
    rintro _ json ⟨_, rfl, -⟩ question unfit
    cases question <;> cases json <;> first
      | exact fails_mismatch _
      | cases unfit
  choice_fails := by
    rintro _ json ⟨_, rfl, -⟩ other others α visit closes
    cases json with
    | str text => exact absurd rfl (other text)
    | obj fields =>
      match fields with
      | [] => exact fails_mismatch _
      | [(key, inner)] => exact absurd rfl (others key inner)
      | _ :: _ :: _ => exact fails_mismatch _
    | _ => exact fails_mismatch _

end Buffer

namespace Json

namespace Draft

mutual

theorem skip_ofJson : (json : Json) → (ofJson json).skip = .ok ()
  | .null => rfl
  | .bool _ => rfl
  | .num _ => rfl
  | .str _ => rfl
  | .arr items => by rw [ofJson, skip, skipItems_ofItems items]; rfl
  | .obj fields => by rw [ofJson, skip, skipPairs_ofFields fields]; rfl

theorem skipItems_ofItems : (items : List Json) → skipItems (ofItems items) = .ok ()
  | [] => rfl
  | item :: rest => by rw [ofItems, skipItems, skip_ofJson item, skipItems_ofItems rest]; rfl

theorem skipPairs_ofFields : (fields : List (String × Json)) → skipPairs (ofFields fields) = .ok ()
  | [] => rfl
  | (_, value) :: rest => by
    rw [ofFields, skipPairs, skip_ofJson value, skipPairs_ofFields rest]
    rfl

end

end Draft

namespace Cursor

theorem lists {items : List Json} {level : Nat}
    (allowed : Reading.allows rendering.deepest (level + (Json.arr items).depth)) (room : Nat)
    (inside : room = deepest - (level + 1)) :
    Lists rendering.Shows (itemsOf (Draft.ofItems items) .closed room) items where
  past := rfl
  elements := by
    subst inside
    change List.Forall₂ _ ((Draft.ofItems items).map _) items
    rw [Draft.ofItems_eq_map, List.map_map]
    exact (Rendering.items_of_allows allowed).2
  whole {taken} all := by
    change surplus (Draft.ofItems items) .closed taken = pure ()
    have beyond : (Draft.ofItems items).drop taken = [] := by
      rw [Draft.ofItems_eq_map]
      exact List.drop_eq_nil_of_le (by rwa [List.length_map])
    rw [surplus, beyond]
    rfl
  early {taken} some := by
    change Fails (surplus (Draft.ofItems items) .closed taken)
    unfold surplus
    split
    · next beyond =>
      rw [Draft.ofItems_eq_map, List.drop_eq_nil_iff, List.length_map] at beyond
      omega
    · exact fails_broken _
    · exact fails_broken _

theorem enter_of_allows {α : Type} {level : Nat} {json : Json}
    (inside : Reading.allows rendering.deepest (level + 1)) (next : Nat → α) :
    (ofJson level json).enter next = pure (next (deepest - (level + 1))) := by
  rw [enter_ofJson]
  exact Reading.upTo_of_allows inside _

theorem fails_unexpected {α : Type} (cursor : Cursor) (expected : String) :
    Fails (cursor.unexpected expected : Reading α) := by
  unfold unexpected
  split
  · exact fails_mismatch _
  · exact fails_broken _

theorem faithful : Faithful rendering.Shows where
  toShowing := Rendering.showing fun level json => by
    change Reading.ofExcept (Draft.ofJson json).skip = pure ()
    rw [Draft.skip_ofJson, Reading.ofExcept_ok]
  count_eq := by rintro _ number ⟨level, rfl, -⟩; rfl
  record_list := by
    rintro _ items ⟨level, rfl, allowed⟩
    refine ⟨_, fun expected => enter_of_allows (Rendering.items_of_allows allowed).1 _,
      lists allowed _ rfl⟩
  tagged_list := by
    rintro _ items ⟨level, rfl, allowed⟩
    refine ⟨_, fun expected => enter_of_allows (Rendering.items_of_allows allowed).1 _,
      lists allowed _ rfl⟩
  choice_text := by rintro _ content ⟨level, rfl, -⟩ α visit; rfl
  choice_field := by
    rintro _ key inner ⟨level, rfl, allowed⟩
    have inside := Rendering.entries_of_allows allowed
    refine ⟨variant (Draft.ofFields [(key, inner)]) .closed (deepest - (level + 1)),
      ⟨rfl, ⟨_, rfl, Rendering.shows_of_mem allowed List.mem_cons_self⟩, ?_, ?_, rfl⟩,
      fun visit => ?_⟩
    · rintro rfl
      rfl
    · intro something
      cases inner <;> first | exact absurd rfl something | exact fails_unexpected _ _
    · exact congrArg (· >>= visit) (enter_of_allows inside _)
  refuses := by
    rintro _ json ⟨level, rfl, -⟩ question unfit
    cases question <;> cases json <;> first
      | exact fails_mismatch _
      | exact (fails_mismatch _).bind _
      | cases unfit
  choice_fails := by
    rintro _ json ⟨level, rfl, allowed⟩ other others α visit closes
    cases json with
    | str text => exact absurd rfl (other text)
    | obj fields =>
      have inside := Rendering.entries_of_allows allowed
      have asked : Source.choice (rendering.render level (.obj fields)) visit =
          visit (variant (Draft.ofFields fields) .closed (deepest - (level + 1))) :=
        congrArg (· >>= visit) (enter_of_allows inside _)
      rw [asked]
      match fields with
      | [] => exact closes _ (fails_broken _)
      | [(key, inner)] => exact absurd rfl (others key inner)
      | _ :: _ :: _ => exact closes _ (fails_broken _)
    | _ => exact (fails_broken _).bind _

end Cursor

end Json

end KvTables
