import KvTables.Proofs.Json.Repeats
import KvTables.Table.Factory

/-! What a factory holds of the backends it was made of.

A list may define a name more than once, and the last definition counts.
-/

set_option autoImplicit false

namespace KvTables

namespace Sorted

variable {α : Type}

theorem lookup_put (key other : String) (value : α) (entries : List (String × α)) :
    (put key value entries).lookup other =
      if other = key then some value else entries.lookup other := by
  induction entries with
  | nil => rw [put, lookup_cons]
  | cons head rest ih =>
    obtain ⟨k, v⟩ := head
    rw [put]
    split
    · rw [lookup_cons]
    · split
      · next replaced =>
        subst replaced
        rw [lookup_cons, lookup_cons]
        split <;> rfl
      · next different =>
        rw [lookup_cons, lookup_cons, ih]
        by_cases here : other = k
        · have kept : ¬other = key := fun same => different (same.symm.trans here)
          rw [if_pos here, if_neg kept, if_pos here]
        · rw [if_neg here, if_neg here]

theorem get?_insert (sorted : Sorted α) (key other : String) (value : α) :
    (sorted.insert key value).get? other = if other = key then some value else sorted.get? other :=
  lookup_put key other value sorted.entries

end Sorted

open Backend

def Backend.Named.last? (backends : List Named) (id : String) : Option Config :=
  (backends.reverse.find? fun named => named.id = id).map Named.config

theorem Backend.Named.last?_cons (named : Named) (rest : List Named) (id : String) :
    last? (named :: rest) id =
      (last? rest id).or (if named.id = id then some named.config else none) := by
  rw [last?, last?, List.reverse_cons, List.find?_append]
  cases rest.reverse.find? fun named => named.id = id with
  | some found => rfl
  | none => by_cases same : named.id = id <;> simp [same]

/-- A name that occurs in a list is defined by it. -/
theorem Backend.Named.isSome_last? {backends : List Named} {named : Named} (listed : named ∈ backends) :
    ∃ config, last? backends named.id = some config := by
  have found : (backends.reverse.find? fun other => other.id = named.id).isSome := by
    rw [List.find?_isSome]
    exact ⟨named, List.mem_reverse.2 listed, by simp⟩
  obtain ⟨last, same⟩ := Option.isSome_iff_exists.1 found
  exact ⟨last.config, by rw [last?, same]; rfl⟩

namespace Factory

theorem value_register (factory : Factory) (named : Named) :
    (factory.register named).value = ⟨factory.backends.insert named.id named.config⟩ := by
  unfold register
  split <;> rfl

theorem get?_registerAll (backends : List Named) (factory : Factory) (id : String) :
    (registerAll backends factory).value.backends.get? id =
      (Named.last? backends id).or (factory.backends.get? id) := by
  induction backends generalizing factory with
  | nil => rfl
  | cons named rest ih =>
    change (registerAll rest (factory.register named).value).value.backends.get? id = _
    rw [ih, value_register, Named.last?_cons, Sorted.get?_insert]
    cases Named.last? rest id with
    | some config => rfl
    | none =>
      by_cases same : id = named.id
      · simp [same]
      · have other : ¬named.id = id := fun named => same named.symm
        simp [same, other]

theorem get?_ofList (backends : List Named) (id : String) :
    (ofList backends).value.backends.get? id = Named.last? backends id := by
  have held := get?_registerAll backends empty id
  rwa [show empty.backends.get? id = none from rfl, Option.or_none] at held

end Factory

end KvTables
