import KvTables.Json.Basic

/-! The order in which the fields of objects stand.

A value is written with its fields as its type declares them, or with the fields of every object
sorted by key. Both orders leave a tree in canonical form alone, and sorting distinct keys is a
permutation.
-/

set_option autoImplicit false

namespace KvTables

namespace Sorted

variable {α : Type}

theorem put_of_above {key : String} {value : α} {entries : List (String × α)}
    (above : ∀ entry ∈ entries, entry.1 < key) :
    put key value entries = entries ++ [(key, value)] := by
  induction entries with
  | nil => rfl
  | cons head rest ih =>
    obtain ⟨k, v⟩ := head
    have below : k < key := above (k, v) List.mem_cons_self
    have notSmaller : ¬key < k := fun smaller => String.lt_irrefl k (String.lt_trans below smaller)
    have different : key ≠ k := fun same => String.lt_irrefl k (same ▸ below)
    simp only [put, notSmaller, different, if_false, List.cons_append]
    rw [ih fun entry member => above entry (List.mem_cons_of_mem _ member)]

theorem foldl_put_of_increasing {sorted entries : List (String × α)}
    (increasing : Increasing (sorted ++ entries)) :
    entries.foldl (fun sorted entry => put entry.1 entry.2 sorted) sorted = sorted ++ entries := by
  induction entries generalizing sorted with
  | nil => simp
  | cons head rest ih =>
    have above : ∀ entry ∈ sorted, entry.1 < head.1 := fun entry member =>
      (List.pairwise_append.1 increasing).2.2 entry member head List.mem_cons_self
    have regrouped : sorted ++ head :: rest = (sorted ++ [head]) ++ rest := by simp
    rw [List.foldl_cons, put_of_above above, ih (regrouped ▸ increasing), ← regrouped]

theorem ofList_eq_self {entries : List (String × α)} (increasing : Increasing entries) :
    ofList entries = entries :=
  @foldl_put_of_increasing α [] entries increasing

theorem put_perm {key : String} {value : α} {entries : List (String × α)}
    (fresh : key ∉ entries.map (·.1)) : (put key value entries).Perm ((key, value) :: entries) := by
  induction entries with
  | nil => exact List.Perm.refl _
  | cons head rest ih =>
    obtain ⟨k, v⟩ := head
    obtain ⟨different, freshRest⟩ : key ≠ k ∧ key ∉ rest.map (·.1) := by simpa using fresh
    rw [put, if_neg different]
    split
    · exact List.Perm.refl _
    · exact ((ih freshRest).cons (k, v)).trans (List.Perm.swap (key, value) (k, v) rest)

theorem foldl_put_perm {entries sorted : List (String × α)}
    (distinct : ((entries ++ sorted).map (·.1)).Nodup) :
    (entries.foldl (fun sorted entry => put entry.1 entry.2 sorted) sorted).Perm
      (entries ++ sorted) := by
  induction entries generalizing sorted with
  | nil => exact List.Perm.refl _
  | cons head rest ih =>
    have behind := List.map_subset (·.1) (List.subset_append_right rest sorted)
    have fresh : head.1 ∉ sorted.map (·.1) := fun member =>
      (List.nodup_cons.1 distinct).1 (behind member)
    have placed : (put head.1 head.2 sorted).Perm (head :: sorted) := put_perm fresh
    -- The head has moved from the entries still to come to those in place.
    have moved : (rest ++ put head.1 head.2 sorted).Perm (head :: rest ++ sorted) :=
      (placed.append_left rest).trans List.perm_middle
    exact (ih ((moved.map _).nodup_iff.2 distinct)).trans moved

/-- Distinct keys are only brought into order. -/
theorem ofList_perm {entries : List (String × α)} (distinct : (entries.map (·.1)).Nodup) :
    (ofList entries).Perm entries := by
  have placed := @foldl_put_perm α entries [] (by simpa using distinct)
  simpa [ofList] using placed

end Sorted

namespace Json

theorem canonicalItems_eq_map (items : List Json) : canonicalItems items = items.map canonical := by
  induction items with
  | nil => rfl
  | cons item rest ih => simp [canonicalItems, ih]

theorem canonicalFields_eq_map (fields : List (String × Json)) :
    canonicalFields fields = fields.map fun field => (field.1, field.2.canonical) := by
  induction fields with
  | nil => rfl
  | cons field rest ih => obtain ⟨key, value⟩ := field; simp [canonicalFields, ih]

mutual

theorem canonical_eq_self : (json : Json) → json.Canonical → json.canonical = json
  | .null, _ => rfl
  | .bool _, _ => rfl
  | .num _, _ => rfl
  | .str _, _ => rfl
  | .arr items, sorted => by rw [canonical, canonicalItems_eq_self items sorted]
  | .obj fields, sorted => by
    rw [canonical, canonicalFields_eq_self fields sorted.2, Sorted.ofList_eq_self sorted.1]

theorem canonicalItems_eq_self :
    (items : List Json) → CanonicalItems items → canonicalItems items = items
  | [], _ => rfl
  | item :: rest, sorted => by
    rw [canonicalItems, canonical_eq_self item sorted.1, canonicalItems_eq_self rest sorted.2]

theorem canonicalFields_eq_self :
    (fields : List (String × Json)) → CanonicalFields fields → canonicalFields fields = fields
  | [], _ => rfl
  | (_, value) :: rest, sorted => by
    rw [canonicalFields, canonical_eq_self value sorted.1, canonicalFields_eq_self rest sorted.2]

end

theorem Value.ofJson_json (value : Value) : Value.ofJson value.json = value := by
  obtain ⟨json, sorted⟩ := value
  simp only [Value.ofJson, canonical_eq_self json sorted]

theorem Object.ofFields_fields (object : Object) : Object.ofFields object.fields = object := by
  obtain ⟨fields, sorted⟩ := object
  simp only [Object.ofFields, canonicalFields_eq_self fields sorted.2,
    Sorted.ofList_eq_self sorted.1]

/-- How the fields of objects are arranged: as a type declares them, or by their keys. -/
inductive Arrangement where
  | declared | sorted
  deriving DecidableEq, Repr

namespace Arrangement

def apply : Arrangement → Json → Json
  | .declared, json => json
  | .sorted, json => json.canonical

variable (arrangement : Arrangement)

def applyFields (fields : List (String × Json)) : List (String × Json) :=
  fields.map fun field => (field.1, arrangement.apply field.2)

@[simp] theorem apply_bool (value : Bool) : arrangement.apply (.bool value) = .bool value := by
  cases arrangement <;> rfl

@[simp] theorem apply_num (value : Number) : arrangement.apply (.num value) = .num value := by
  cases arrangement <;> rfl

@[simp] theorem apply_str (text : String) : arrangement.apply (.str text) = .str text := by
  cases arrangement <;> rfl

@[simp] theorem apply_arr (items : List Json) :
    arrangement.apply (.arr items) = .arr (items.map arrangement.apply) := by
  cases arrangement with
  | declared => exact congrArg Json.arr (List.map_id items).symm
  | sorted => exact congrArg Json.arr (canonicalItems_eq_map items)

theorem applyFields_cons_str (key text : String) (rest : List (String × Json)) :
    arrangement.applyFields ((key, .str text) :: rest) =
      (key, .str text) :: arrangement.applyFields rest := by
  rw [applyFields, List.map_cons, apply_str, ← applyFields]

theorem apply_of_canonical {json : Json} (canonical : json.Canonical) :
    arrangement.apply json = json := by
  cases arrangement with
  | declared => rfl
  | sorted => exact canonical_eq_self json canonical

theorem apply_object (object : Object) : arrangement.apply object.toJson = object.toJson :=
  arrangement.apply_of_canonical object.canonical

theorem apply_obj {fields : List (String × Json)} (distinct : (fields.map (·.1)).Nodup) :
    ∃ arranged, arrangement.apply (.obj fields) = .obj arranged ∧
      arranged.Perm (arrangement.applyFields fields) := by
  cases arrangement with
  | declared => exact ⟨fields, rfl, List.Perm.of_eq (List.map_id fields).symm⟩
  | sorted =>
    refine ⟨Sorted.ofList (canonicalFields fields), rfl, ?_⟩
    rw [canonicalFields_eq_map]
    exact Sorted.ofList_perm (by simpa [List.map_map, Function.comp_def] using distinct)

theorem apply_single (key : String) (value : Json) :
    arrangement.apply (.obj [(key, value)]) = .obj [(key, arrangement.apply value)] := by
  cases arrangement <;> rfl

theorem apply_obj_ne_null (fields : List (String × Json)) :
    arrangement.apply (.obj fields) ≠ .null := by
  cases arrangement <;> exact Json.noConfusion

end Arrangement

end Json

end KvTables
