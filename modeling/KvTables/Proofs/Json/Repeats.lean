import KvTables.Proofs.Json.Arrangement
import Mathlib.Data.List.Forall2
import Mathlib.Data.List.Nodup
import Mathlib.Data.List.Perm.Basic

/-! Trees that repeat a key, and trees that repeat none.

Of several fields under one key the last decides what an object means. A tree is tidied by one that
means the same and repeats a key only where the tree does: the canonical form is such a tree, and so is
the tree itself with its keys in another order.
-/

set_option autoImplicit false

namespace KvTables

namespace Sorted

variable {α : Type}

theorem filter_put_kept (keep : String → Bool) {key : String} (kept : keep key) (value : α)
    {entries : List (String × α)} (increasing : Increasing entries) :
    (put key value entries).filter (fun entry => keep entry.1) =
      put key value (entries.filter fun entry => keep entry.1) := by
  induction entries with
  | nil => simp [put, kept]
  | cons head rest ih =>
    obtain ⟨k, v⟩ := head
    obtain ⟨above, increasingRest⟩ := List.pairwise_cons.1 increasing
    by_cases smaller : key < k
    · -- All that is left behind the new entry is larger, kept or not.
      have front : ∀ larger : List (String × α), (∀ entry ∈ larger, key < entry.1) →
          put key value larger = (key, value) :: larger := by
        intro larger below
        cases larger with
        | nil => rfl
        | cons first others => simp [put, below first List.mem_cons_self]
      have below : ∀ entry ∈ (k, v) :: rest, key < entry.1 := by
        intro entry member
        rcases List.mem_cons.1 member with rfl | inRest
        · exact smaller
        · exact String.lt_trans smaller (above entry inRest)
      rw [front _ below, front _ fun entry member => below entry (List.mem_of_mem_filter member),
        List.filter_cons_of_pos (by simpa using kept)]
    · by_cases same : key = k
      · subst same
        simp [put, kept]
      · have later := ih increasingRest
        by_cases keptHead : keep k
        · simp [put, smaller, same, keptHead, later]
        · simp [put, smaller, same, keptHead, later]

theorem filter_put_dropped (keep : String → Bool) {key : String} (dropped : keep key = false)
    (value : α) (entries : List (String × α)) :
    (put key value entries).filter (fun entry => keep entry.1) =
      entries.filter fun entry => keep entry.1 := by
  induction entries with
  | nil => simp [put, dropped]
  | cons head rest ih =>
    obtain ⟨k, v⟩ := head
    rw [put]
    split
    · simp [dropped]
    · split
      · next same => subst same; simp [dropped]
      · by_cases keptHead : keep k
        · simp [keptHead, ih]
        · simp [keptHead, ih]

theorem filter_foldl_put (keep : String → Bool) (entries sorted : List (String × α))
    (increasing : Increasing sorted) :
    (entries.foldl (fun sorted entry => put entry.1 entry.2 sorted) sorted).filter
        (fun entry => keep entry.1) =
      (entries.filter fun entry => keep entry.1).foldl
        (fun sorted entry => put entry.1 entry.2 sorted)
        (sorted.filter fun entry => keep entry.1) := by
  induction entries generalizing sorted with
  | nil => rfl
  | cons head rest ih =>
    rw [List.foldl_cons, ih _ (increasing_put increasing)]
    cases kept : keep head.1 with
    | true =>
      rw [filter_put_kept keep kept head.2 increasing, List.filter_cons_of_pos (by simpa using kept),
        List.foldl_cons]
    | false =>
      rw [filter_put_dropped keep kept head.2, List.filter_cons_of_neg (by simp [kept])]

/-- Which of several equal keys decides is settled for each key on its own. -/
theorem filter_ofList (keep : String → Bool) (entries : List (String × α)) :
    (ofList entries).filter (fun entry => keep entry.1) =
      ofList (entries.filter fun entry => keep entry.1) :=
  filter_foldl_put keep entries [] List.Pairwise.nil

theorem Increasing.nodup {entries : List (String × α)} (increasing : Increasing entries) :
    (entries.map (·.1)).Nodup := by
  rw [List.nodup_iff_pairwise_ne, List.pairwise_map]
  exact increasing.imp fun less => String.ne_of_lt less

theorem put_ne_nil (key : String) (value : α) (entries : List (String × α)) :
    put key value entries ≠ [] := by
  unfold put
  split
  · exact List.cons_ne_nil _ _
  · split
    · exact List.cons_ne_nil _ _
    · split <;> exact List.cons_ne_nil _ _

theorem ofList_ne_nil {entries : List (String × α)} (some : entries ≠ []) : ofList entries ≠ [] := by
  have stays : ∀ (entries sorted : List (String × α)), sorted ≠ [] →
      entries.foldl (fun sorted entry => put entry.1 entry.2 sorted) sorted ≠ [] := by
    intro entries
    induction entries with
    | nil => exact fun _ given => given
    | cons entry rest ih => exact fun sorted _ => ih _ (put_ne_nil _ _ _)
  cases entries with
  | nil => exact absurd rfl some
  | cons entry rest => exact stays rest _ (List.cons_ne_nil _ _)

theorem lookup_cons (other key : String) (value : α) (rest : List (String × α)) :
    ((key, value) :: rest).lookup other = if other = key then some value else rest.lookup other := by
  by_cases same : other = key
  · rw [same, List.lookup_cons_self, if_pos rfl]
  · have differs : (other == key) = false := beq_false_of_ne same
    rw [List.lookup_cons, differs, if_neg same]

theorem lookup_eq_some_iff {entries : List (String × α)} (increasing : Increasing entries)
    {key : String} {value : α} : entries.lookup key = some value ↔ (key, value) ∈ entries := by
  induction entries with
  | nil => exact ⟨nofun, nofun⟩
  | cons head rest ih =>
    obtain ⟨k, v⟩ := head
    obtain ⟨above, increasingRest⟩ := List.pairwise_cons.1 increasing
    rw [lookup_cons, List.mem_cons, Prod.mk.injEq]
    split
    · next same =>
      subst same
      constructor
      · exact fun found => .inl ⟨rfl, (Option.some.inj found).symm⟩
      · rintro (⟨-, rfl⟩ | member)
        · rfl
        · exact absurd (above _ member) (String.lt_irrefl key)
    · next different => simp [different, ih increasingRest]

/-- Associations in order are told apart by what they hold under some key. -/
theorem Increasing.ext {entries others : List (String × α)} (increasing : Increasing entries)
    (increasingOthers : Increasing others)
    (same : ∀ key, (entries.filter fun entry => entry.1 = key) =
      others.filter fun entry => entry.1 = key) : entries = others := by
  have members : ∀ entry, entry ∈ entries ↔ entry ∈ others := by
    intro entry
    have held := congrArg (entry ∈ ·) (same entry.1)
    simpa using held
  have permuted : entries.Perm others :=
    (List.perm_ext_iff_of_nodup increasing.nodup.of_map increasingOthers.nodup.of_map).2 members
  refine permuted.eq_of_pairwise (fun a b _ _ less more => ?_) increasing increasingOthers
  exact absurd (String.lt_trans less more) (String.lt_irrefl a.1)

end Sorted

namespace Json

/-- What holds of a container once it holds of its members holds of every tree. -/
@[elab_as_elim]
theorem induct {P : Json → Prop} (null : P .null) (bool : ∀ value, P (.bool value))
    (num : ∀ value, P (.num value)) (str : ∀ text, P (.str text))
    (arr : ∀ items, (∀ item ∈ items, P item) → P (.arr items))
    (obj : ∀ fields, (∀ field ∈ fields, P field.2) → P (.obj fields)) (json : Json) : P json :=
  @Json.rec P (fun items => ∀ item ∈ items, P item) (fun fields => ∀ field ∈ fields, P field.2)
    (fun field => P field.2) null bool num str arr obj nofun
    (fun _ _ first rest => List.forall_mem_cons.2 ⟨first, rest⟩) nofun
    (fun _ _ first rest => List.forall_mem_cons.2 ⟨first, rest⟩) (fun _ _ value => value) json

mutual

def Distinct : Json → Prop
  | .null => True
  | .bool _ => True
  | .num _ => True
  | .str _ => True
  | .arr items => DistinctItems items
  | .obj fields => (fields.map (·.1)).Nodup ∧ DistinctFields fields

def DistinctItems : List Json → Prop
  | [] => True
  | item :: rest => item.Distinct ∧ DistinctItems rest

def DistinctFields : List (String × Json) → Prop
  | [] => True
  | (_, value) :: rest => value.Distinct ∧ DistinctFields rest

end

theorem distinctItems_iff {items : List Json} :
    DistinctItems items ↔ ∀ item ∈ items, item.Distinct := by
  induction items with
  | nil => simp [DistinctItems]
  | cons item rest ih => simp [DistinctItems, ih]

theorem distinctFields_iff {fields : List (String × Json)} :
    DistinctFields fields ↔ ∀ field ∈ fields, field.2.Distinct := by
  induction fields with
  | nil => simp [DistinctFields]
  | cons field rest ih => obtain ⟨key, value⟩ := field; simp [DistinctFields, ih]

def under (key : String) (fields : List (String × Json)) : List Json :=
  (fields.filter fun field => field.1 = key).map (·.2)

theorem mem_under {key : String} {fields : List (String × Json)} {value : Json} :
    value ∈ under key fields ↔ (key, value) ∈ fields := by
  simp [under]

theorem under_append (key : String) (fields others : List (String × Json)) :
    under key (fields ++ others) = under key fields ++ under key others := by
  simp [under]

theorem under_cons_self (key : String) (value : Json) (fields : List (String × Json)) :
    under key ((key, value) :: fields) = value :: under key fields := by
  simp [under]

theorem under_cons_other {key other : String} (different : other ≠ key) (value : Json)
    (fields : List (String × Json)) : under key ((other, value) :: fields) = under key fields := by
  simp [under, different]

theorem filter_eq_under (key : String) (fields : List (String × Json)) :
    (fields.filter fun field => field.1 = key) = (under key fields).map (key, ·) := by
  induction fields with
  | nil => rfl
  | cons field rest ih =>
    obtain ⟨other, value⟩ := field
    by_cases same : other = key
    · subst same
      rw [under_cons_self, List.map_cons, ← ih, List.filter_cons_of_pos (by simp)]
    · rw [under_cons_other same, ← ih, List.filter_cons_of_neg (by simpa using same)]

theorem length_under (key : String) (fields : List (String × Json)) :
    (under key fields).length = (fields.map (·.1)).count key := by
  rw [under, List.length_map, List.count_eq_countP, List.countP_map, List.countP_eq_length_filter]
  rfl

theorem nodup_iff_under {fields : List (String × Json)} :
    (fields.map (·.1)).Nodup ↔ ∀ key, (under key fields).length ≤ 1 := by
  simp only [List.nodup_iff_count_le_one, length_under]

/-- Where no key is repeated, what stands under a key stands there alone. -/
theorem under_of_mem {fields : List (String × Json)} (distinct : (fields.map (·.1)).Nodup)
    {key : String} {value : Json} (member : (key, value) ∈ fields) : under key fields = [value] := by
  have held := mem_under.2 member
  have atMost := nodup_iff_under.1 distinct key
  match under key fields, held, atMost with
  | [found], held, _ => rw [List.mem_singleton.1 held]
  | _ :: _ :: _, _, more => exact absurd more (by simp)

theorem under_filter (keep : String → Bool) (key : String) (fields : List (String × Json)) :
    under key (fields.filter fun field => keep field.1) =
      if keep key then under key fields else [] := by
  rw [under, List.filter_filter]
  split
  · next kept =>
    have same : ∀ field ∈ fields,
        (decide (field.1 = key) && keep field.1) = decide (field.1 = key) := by
      intro field _
      by_cases equal : field.1 = key <;> simp [equal, kept]
    rw [List.filter_congr same, ← under]
  · next dropped =>
    rw [List.map_eq_nil_iff, List.filter_eq_nil_iff]
    intro field _
    by_cases equal : field.1 = key <;> simp [equal, dropped]

theorem canonicalFields_filter (keep : String → Bool) (fields : List (String × Json)) :
    canonicalFields (fields.filter fun field => keep field.1) =
      (canonicalFields fields).filter fun field => keep field.1 := by
  rw [canonicalFields_eq_map, canonicalFields_eq_map, List.filter_map]
  rfl

/-- Where no key is repeated, canonical form keeps all fields. -/
theorem ofList_canonicalFields_perm {fields : List (String × Json)}
    (distinct : (fields.map (·.1)).Nodup) :
    (Sorted.ofList (canonicalFields fields)).Perm (canonicalFields fields) :=
  Sorted.ofList_perm (by simpa [canonicalFields_eq_map, Function.comp_def] using distinct)

/-- What stands under a key in canonical form is settled by what stood there. -/
theorem filter_canonical (key : String) (fields : List (String × Json)) :
    ((Sorted.ofList (canonicalFields fields)).filter fun field => field.1 = key) =
      Sorted.ofList (canonicalFields ((under key fields).map (key, ·))) := by
  rw [Sorted.filter_ofList fun other => other = key, ← filter_eq_under,
    canonicalFields_filter fun other => other = key]

theorem under_canonical_single {key : String} {fields : List (String × Json)} {value : Json}
    (single : under key fields = [value]) :
    under key (Sorted.ofList (canonicalFields fields)) = [value.canonical] := by
  rw [under, filter_canonical, single]
  rfl

theorem under_canonical_eq_nil {key : String} {fields : List (String × Json)} :
    under key (Sorted.ofList (canonicalFields fields)) = [] ↔ under key fields = [] := by
  rw [under, List.map_eq_nil_iff, filter_canonical]
  constructor
  · intro none
    by_contra some
    refine Sorted.ofList_ne_nil ?_ none
    simpa [canonicalFields_eq_map] using some
  · intro none
    rw [none]
    rfl

/-- The second tree means what the first does and repeats a key only where the first does. -/
inductive Tidied : Json → Json → Prop where
  | protected null : Tidied .null .null
  | protected bool (value : Bool) : Tidied (.bool value) (.bool value)
  | protected num (value : Number) : Tidied (.num value) (.num value)
  | protected str (text : String) : Tidied (.str text) (.str text)
  | protected arr {items others : List Json} (same : canonicalItems items = canonicalItems others)
    (inner : ∀ (i : Nat) item other, items[i]? = some item → others[i]? = some other →
      Tidied item other) :
    Tidied (.arr items) (.arr others)
  | protected obj {fields others : List (String × Json)}
    (same : Sorted.ofList (canonicalFields fields) = Sorted.ofList (canonicalFields others))
    (single : ∀ key value, under key fields = [value] → ∃ other, under key others = [other])
    (inner : ∀ key value other, under key fields = [value] → under key others = [other] →
      Tidied value other) :
    Tidied (.obj fields) (.obj others)

/-- Fields of which the second carry the tidied values of the first. -/
def TidiedFields (fields tidy : List (String × Json)) : Prop :=
  List.Forall₂ (fun field other => field.1 = other.1 ∧ field.2.Tidied other.2) fields tidy

namespace Tidied

variable {json tidy : Json}

theorem same (tidied : json.Tidied tidy) : json.canonical = tidy.canonical := by
  cases tidied with
  | arr same => exact congrArg Json.arr same
  | obj same => exact congrArg Json.obj same
  | _ => rfl

protected theorem refl (json : Json) : json.Tidied json := by
  induction json using induct with
  | null => exact .null
  | bool value => exact .bool value
  | num value => exact .num value
  | str text => exact .str text
  | arr items ih =>
    refine .arr rfl fun i item other here there => ?_
    obtain rfl : item = other := Option.some.inj (here.symm.trans there)
    exact ih item (List.mem_of_getElem? here)
  | obj fields ih =>
    refine .obj rfl (fun key value single => ⟨value, single⟩) fun key value other here there => ?_
    obtain rfl : value = other := List.singleton_inj.1 (here.symm.trans there)
    exact ih (key, value) (mem_under.1 (here ▸ List.mem_singleton_self value))

theorem canonical_self (json : Json) : json.Tidied json.canonical := by
  induction json using induct with
  | null => exact .null
  | bool value => exact .bool value
  | num value => exact .num value
  | str text => exact .str text
  | arr items ih =>
    refine .arr (canonicalItems_eq_self _ (canonicalItems_canonical items)).symm
      fun i item other here there => ?_
    rw [canonicalItems_eq_map, List.getElem?_map, here] at there
    obtain rfl : item.canonical = other := Option.some.inj there
    exact ih item (List.mem_of_getElem? here)
  | obj fields ih =>
    refine .obj (Json.obj.inj (canonical_eq_self _ (canonical_canonical (.obj fields)))).symm
      (fun key value single => ⟨_, under_canonical_single single⟩)
      fun key value other here there => ?_
    rw [under_canonical_single here] at there
    obtain rfl : value.canonical = other := List.singleton_inj.1 there
    exact ih (key, value) (mem_under.1 (here ▸ List.mem_singleton_self value))

theorem length_eq {items others : List Json} (same : canonicalItems items = canonicalItems others) :
    items.length = others.length := by
  simpa [canonicalItems_eq_map] using congrArg List.length same

/-- Objects that mean the same have the same keys. -/
theorem under_eq_nil {fields others : List (String × Json)}
    (same : Sorted.ofList (canonicalFields fields) = Sorted.ofList (canonicalFields others))
    (key : String) : under key fields = [] ↔ under key others = [] := by
  rw [← under_canonical_eq_nil, same, under_canonical_eq_nil]

protected theorem trans {last : Json} (first : json.Tidied tidy) (second : tidy.Tidied last) :
    json.Tidied last := by
  induction first generalizing last with
  | null => exact second
  | bool value => exact second
  | num value => exact second
  | str text => exact second
  | @arr items others same _ ih =>
    cases second with
    | @arr _ last further inner =>
      refine .arr (same.trans further) fun i item final here there => ?_
      obtain ⟨middle, between⟩ : ∃ middle, others[i]? = some middle := by
        have inside := (List.getElem?_eq_some_iff.1 here).1
        rw [length_eq same] at inside
        exact ⟨_, List.getElem?_eq_getElem inside⟩
      exact ih i item middle here between (inner i middle final between there)
  | @obj fields others same single _ ih =>
    cases second with
    | @obj _ last further singleFurther inner =>
      refine .obj (same.trans further) (fun key value here => ?_) fun key value final here there => ?_
      · obtain ⟨middle, between⟩ := single key value here
        exact singleFurther key middle between
      · obtain ⟨middle, between⟩ := single key value here
        exact ih key value middle here between (inner key middle final between there)

/-- What has no key twice is itself a tidy form of what it is tidied by. -/
protected theorem symm (tidied : json.Tidied tidy) (distinct : json.Distinct) :
    tidy.Tidied json := by
  induction tidied with
  | null => exact .null
  | bool value => exact .bool value
  | num value => exact .num value
  | str text => exact .str text
  | @arr items others same _ ih =>
    have items : DistinctItems _ := distinct
    rw [distinctItems_iff] at items
    exact .arr same.symm fun i other item there here =>
      ih i item other here there (items item (List.mem_of_getElem? here))
  | @obj fields others same single _ ih =>
    obtain ⟨keys, values⟩ := distinct
    rw [distinctFields_iff] at values
    refine .obj same.symm (fun key other there => ?_) fun key other value there here => ?_
    · have given : under key fields ≠ [] := fun none => by
        simp [(under_eq_nil same key).1 none] at there
      exact List.length_eq_one_iff.1 (Nat.le_antisymm (nodup_iff_under.1 keys key)
        (List.length_pos_iff.2 given))
    · exact ih key value other here there
        (values (key, value) (mem_under.1 (here ▸ List.mem_singleton_self value)))

theorem eq_null (tidied : Json.null.Tidied tidy) : tidy = .null := by
  cases tidied
  rfl

theorem eq_bool {value : Bool} (tidied : (Json.bool value).Tidied tidy) : tidy = .bool value := by
  cases tidied
  rfl

theorem eq_num {value : Number} (tidied : (Json.num value).Tidied tidy) : tidy = .num value := by
  cases tidied
  rfl

theorem eq_str {text : String} (tidied : (Json.str text).Tidied tidy) : tidy = .str text := by
  cases tidied
  rfl

theorem eq_arr {items : List Json} (tidied : (Json.arr items).Tidied tidy) :
    ∃ others, tidy = .arr others ∧ List.Forall₂ Tidied items others := by
  cases tidied with
  | @arr _ others same inner =>
    refine ⟨others, rfl, List.forall₂_iff_get.2 ⟨length_eq same, fun i here there => ?_⟩⟩
    exact inner i _ _ (List.getElem?_eq_getElem here) (List.getElem?_eq_getElem there)

theorem eq_obj {fields : List (String × Json)} (tidied : (Json.obj fields).Tidied tidy) :
    ∃ others, tidy = .obj others := by
  cases tidied with
  | @obj _ others => exact ⟨others, rfl⟩

variable {fields others : List (String × Json)}

theorem ofList_eq (tidied : (Json.obj fields).Tidied (.obj others)) :
    Sorted.ofList (canonicalFields fields) = Sorted.ofList (canonicalFields others) :=
  Json.obj.inj tidied.same

/-- Objects without a known form come out the same. -/
theorem object_eq (tidied : (Json.obj fields).Tidied (.obj others)) :
    Object.ofFields fields = Object.ofFields others := by
  simp only [Object.ofFields, tidied.ofList_eq]

theorem filter (tidied : (Json.obj fields).Tidied (.obj others)) (keep : String → Bool) :
    (Json.obj (fields.filter fun field => keep field.1)).Tidied
      (.obj (others.filter fun field => keep field.1)) := by
  cases tidied with
  | obj same single inner =>
    refine .obj ?_ (fun key value here => ?_) fun key value other here there => ?_
    · rw [canonicalFields_filter, canonicalFields_filter, ← Sorted.filter_ofList,
        ← Sorted.filter_ofList, same]
    · rw [under_filter] at here ⊢
      split at here
      · next kept =>
        rw [if_pos kept]
        exact single key value here
      · cases here
    · rw [under_filter] at here there
      split at here
      · next kept =>
        rw [if_pos kept] at there
        exact inner key value other here there
      · cases here

theorem nodup (tidied : (Json.obj fields).Tidied (.obj others))
    (distinct : (fields.map (·.1)).Nodup) : (others.map (·.1)).Nodup := by
  cases tidied with
  | obj same single _ =>
    rw [nodup_iff_under] at distinct ⊢
    intro key
    have atMost := distinct key
    match found : under key fields, atMost with
    | [], _ =>
      rw [(under_eq_nil same key).1 found]
      exact Nat.zero_le 1
    | [value], _ =>
      obtain ⟨other, there⟩ := single key value found
      rw [there]
      exact Nat.le_refl 1

/-- Fields that repeat no key are tidied by rearranging them. -/
theorem rearranged (tidied : (Json.obj fields).Tidied (.obj others))
    (distinct : (fields.map (·.1)).Nodup) :
    ∃ moved, fields.Perm moved ∧ TidiedFields moved others := by
  have distinctOthers := tidied.nodup distinct
  have sorted : (canonicalFields others).Perm (canonicalFields fields) := by
    refine (ofList_canonicalFields_perm distinctOthers).symm.trans ?_
    rw [← tidied.ofList_eq]
    exact ofList_canonicalFields_perm distinct
  rw [canonicalFields_eq_map, canonicalFields_eq_map] at sorted
  -- A permutation of the canonical fields is one of the fields themselves.
  obtain ⟨moved, mapped, permuted⟩ : ∃ moved : List (String × Json),
      others.map (fun field => (field.1, field.2.canonical)) =
        moved.map (fun field => (field.1, field.2.canonical)) ∧ moved.Perm fields :=
    (congrFun (congrFun (List.eq_map_comp_perm _) _) fields).mpr sorted
  refine ⟨moved, permuted.symm, ?_⟩
  rw [← List.forall₂_eq_eq_eq, List.forall₂_map_left_iff, List.forall₂_map_right_iff] at mapped
  refine List.forall₂_iff_get.2 ⟨mapped.length_eq.symm, fun i here there => ?_⟩
  obtain ⟨key, -⟩ := Prod.mk.inj ((List.forall₂_iff_get.1 mapped).2 i there here)
  have member := under_of_mem distinct (permuted.subset (List.get_mem moved ⟨i, here⟩))
  have memberOther := under_of_mem distinctOthers (List.get_mem others ⟨i, there⟩)
  cases tidied with
  | obj _ _ inner => exact ⟨key.symm, inner _ _ _ member (key ▸ memberOther)⟩

theorem tail {first other : Json} {items rest : List Json}
    (tidied : (Json.arr (first :: items)).Tidied (.arr (other :: rest))) :
    (Json.arr items).Tidied (.arr rest) := by
  cases tidied with
  | arr same inner =>
    refine .arr (List.cons.inj same).2 fun i item other here there => ?_
    exact inner (i + 1) item other here there

end Tidied

/-- Trees that differ in the order of fields, at any depth. Values under one key keep their order. -/
inductive Reordered : Json → Json → Prop where
  | protected refl (json : Json) : Reordered json json
  | fields {fields others : List (String × Json)} (moved : ∀ key, under key fields = under key others) :
    Reordered (.obj fields) (.obj others)
  | item {item other : Json} (before after : List Json) (inside : Reordered item other) :
    Reordered (.arr (before ++ item :: after)) (.arr (before ++ other :: after))
  | value {value other : Json} (before : List (String × Json)) (key : String)
    (after : List (String × Json)) (inside : Reordered value other) :
    Reordered (.obj (before ++ (key, value) :: after)) (.obj (before ++ (key, other) :: after))
  | protected trans {json other last : Json} (first : Reordered json other) (second : Reordered other last) :
    Reordered json last

namespace Reordered

/-- Fields that repeat no key can stand in any order. -/
theorem of_perm {fields others : List (String × Json)} (permuted : fields.Perm others)
    (distinct : (fields.map (·.1)).Nodup) : Reordered (.obj fields) (.obj others) := by
  refine .fields fun key => ?_
  have values : (under key fields).Perm (under key others) := (permuted.filter _).map _
  have atMost := nodup_iff_under.1 distinct key
  match under key fields, values, atMost with
  | [], values, _ => exact values.nil_eq
  | [_], values, _ => exact (List.perm_singleton.1 values.symm).symm

theorem tidied {json other : Json} (reordered : json.Reordered other) : json.Tidied other := by
  induction reordered with
  | refl json => exact .refl json
  | @fields fields others moved =>
    refine .obj ?_ (fun key value here => ⟨value, (moved key) ▸ here⟩)
      fun key value other here there => ?_
    · refine (Sorted.increasing_ofList _).ext (Sorted.increasing_ofList _) fun key => ?_
      rw [filter_canonical, filter_canonical, moved]
    · rw [← moved, here] at there
      obtain rfl := List.singleton_inj.1 there
      exact .refl value
  | @item item other before after _ ih =>
    refine .arr (by simp [canonicalItems_eq_map, ih.same]) fun i first second here there => ?_
    rw [List.getElem?_append] at here there
    split at here
    · next early =>
      rw [if_pos early] at there
      obtain rfl := Option.some.inj (here.symm.trans there)
      exact .refl first
    · next late =>
      rw [if_neg late] at there
      cases place : i - before.length with
      | zero =>
        rw [place] at here there
        obtain rfl : item = first := Option.some.inj here
        obtain rfl : other = second := Option.some.inj there
        exact ih
      | succ behind =>
        rw [place] at here there
        obtain rfl : first = second := Option.some.inj (here.symm.trans there)
        exact .refl first
  | @value value other before key after _ ih =>
    have elsewhere : ∀ name, key ≠ name →
        under name (before ++ (key, value) :: after) = under name (before ++ (key, other) :: after) := by
      intro name different
      rw [under_append, under_append, under_cons_other different, under_cons_other different]
    refine .obj (by simp [canonicalFields_eq_map, ih.same]) (fun name found here => ?_)
      fun name found second here there => ?_
    · by_cases same : key = name
      · subst same
        refine List.length_eq_one_iff.1 ?_
        have length := congrArg List.length here
        simpa [under_append, under_cons_self] using length
      · exact ⟨found, elsewhere name same ▸ here⟩
    · by_cases same : key = name
      · subst same
        -- A key that stands once stands before the value that was exchanged.
        have alone : ∀ one found : Json,
            under key (before ++ (key, one) :: after) = [found] → one = found := by
          intro one found single
          have member : one ∈ under key (before ++ (key, one) :: after) :=
            mem_under.2 (List.mem_append_right _ List.mem_cons_self)
          rw [single] at member
          exact List.mem_singleton.1 member
        obtain rfl := alone value found here
        obtain rfl := alone other second there
        exact ih
      · rw [← elsewhere name same, here] at there
        obtain rfl := List.singleton_inj.1 there
        exact .refl found
  | trans _ _ ihFirst ihSecond => exact ihFirst.trans ihSecond

end Reordered

end Json

end KvTables
