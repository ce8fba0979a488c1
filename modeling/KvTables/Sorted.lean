/-! Associations from texts, kept in increasing order of their keys.

Keys are ordered by code point, which is also the order of their UTF-8 bytes.
-/

set_option autoImplicit false

namespace KvTables

variable {α : Type}

namespace Sorted

def Increasing (entries : List (String × α)) : Prop :=
  entries.Pairwise fun a b => a.1 < b.1

def put (key : String) (value : α) : List (String × α) → List (String × α)
  | [] => [(key, value)]
  | (k, v) :: rest =>
    if key < k then (key, value) :: (k, v) :: rest
    else if key = k then (key, value) :: rest
    else (k, v) :: put key value rest

/-- The last of several equal keys decides. -/
def ofList (entries : List (String × α)) : List (String × α) :=
  entries.foldl (fun sorted entry => put entry.1 entry.2 sorted) []

theorem mem_put {key : String} {value : α} {entries : List (String × α)} {entry : String × α}
    (member : entry ∈ put key value entries) : entry = (key, value) ∨ entry ∈ entries := by
  induction entries with
  | nil => simpa [put] using member
  | cons head rest ih =>
    obtain ⟨k, v⟩ := head
    rw [put] at member
    split at member
    · simpa using member
    · split at member
      · rcases List.mem_cons.1 member with rfl | inRest
        · exact .inl rfl
        · exact .inr (List.mem_cons_of_mem _ inRest)
      · rcases List.mem_cons.1 member with rfl | inRest
        · exact .inr List.mem_cons_self
        · exact (ih inRest).imp id (List.mem_cons_of_mem _)

theorem increasing_put {key : String} {value : α} {entries : List (String × α)}
    (sorted : Increasing entries) : Increasing (put key value entries) := by
  induction entries with
  | nil => simp [put, Increasing]
  | cons head rest ih =>
    obtain ⟨k, v⟩ := head
    obtain ⟨above, sortedRest⟩ := List.pairwise_cons.1 sorted
    rw [put]
    split
    · next smaller =>
      refine List.pairwise_cons.2 ⟨fun entry member => ?_, sorted⟩
      rcases List.mem_cons.1 member with rfl | inRest
      · exact smaller
      · exact String.lt_trans smaller (above entry inRest)
    · next notSmaller =>
      split
      · next same => exact List.pairwise_cons.2 ⟨fun entry member => same ▸ above entry member, sortedRest⟩
      · next different =>
        have larger : k < key := by
          rcases String.le_total key k with below | below
          · exact absurd (String.le_antisymm below (String.not_lt.1 notSmaller)) different
          · exact Decidable.byContradiction fun no =>
              different (String.le_antisymm (String.not_lt.1 no) below)
        refine List.pairwise_cons.2 ⟨fun entry member => ?_, ih sortedRest⟩
        rcases mem_put member with rfl | inRest
        · exact larger
        · exact above entry inRest

theorem foldl_put_spec (entries sorted : List (String × α)) (increasing : Increasing sorted) :
    Increasing (entries.foldl (fun sorted entry => put entry.1 entry.2 sorted) sorted) ∧
    ∀ entry ∈ entries.foldl (fun sorted entry => put entry.1 entry.2 sorted) sorted,
      entry ∈ entries ∨ entry ∈ sorted := by
  induction entries generalizing sorted with
  | nil => exact ⟨increasing, fun _ member => .inr member⟩
  | cons head rest ih =>
    obtain ⟨stays, origin⟩ := ih (put head.1 head.2 sorted) (increasing_put increasing)
    refine ⟨stays, fun entry member => ?_⟩
    rcases origin entry member with inRest | inPut
    · exact .inl (List.mem_cons_of_mem _ inRest)
    · rcases mem_put inPut with rfl | inSorted
      · exact .inl List.mem_cons_self
      · exact .inr inSorted

theorem increasing_ofList (entries : List (String × α)) : Increasing (ofList entries) :=
  (foldl_put_spec entries [] List.Pairwise.nil).1

theorem mem_of_mem_ofList {entries : List (String × α)} {entry : String × α}
    (member : entry ∈ ofList entries) : entry ∈ entries := by
  rcases (foldl_put_spec entries [] List.Pairwise.nil).2 entry member with found | none
  · exact found
  · exact absurd none List.not_mem_nil

end Sorted

/-- Associations whose keys increase strictly. -/
structure Sorted (α : Type) where
  entries : List (String × α)
  increasing : Sorted.Increasing entries

namespace Sorted

def empty : Sorted α := ⟨[], List.Pairwise.nil⟩

def insert (sorted : Sorted α) (key : String) (value : α) : Sorted α :=
  ⟨put key value sorted.entries, increasing_put sorted.increasing⟩

def keys (sorted : Sorted α) : List String := sorted.entries.map (·.1)

def get? (sorted : Sorted α) (key : String) : Option α := sorted.entries.lookup key

def contains (sorted : Sorted α) (key : String) : Bool := (sorted.get? key).isSome

end Sorted

end KvTables
