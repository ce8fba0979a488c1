import KvTables.Proofs.Factories.Definitions
import KvTables.Proofs.Text.Order
import Mathlib.Data.List.Induction

/-! A factory of a list that repeats names.

The last definition of a name counts, and each entry whose name occurred before is warned of. So there are
as many lines as there are entries beyond the first of each name, and without any the order of the list
does not matter.
-/

set_option autoImplicit false

namespace KvTables

namespace Sorted

variable {α : Type}

theorem get?_eq_some_iff {sorted : Sorted α} {key : String} {value : α} :
    sorted.get? key = some value ↔ (key, value) ∈ sorted.entries :=
  lookup_eq_some_iff sorted.increasing

theorem mem_keys {sorted : Sorted α} {key : String} :
    key ∈ sorted.keys ↔ (sorted.get? key).isSome := by
  simp only [keys, List.mem_map, Option.isSome_iff_exists, get?_eq_some_iff]
  constructor
  · rintro ⟨⟨_, value⟩, member, rfl⟩
    exact ⟨value, member⟩
  · rintro ⟨value, member⟩
    exact ⟨_, member, rfl⟩

theorem nodup_keys (sorted : Sorted α) : sorted.keys.Nodup := sorted.increasing.nodup

/-- A key is added once. -/
theorem keys_insert (sorted : Sorted α) (key : String) (value : α) :
    (sorted.insert key value).keys.Perm
      (if sorted.contains key then sorted.keys else key :: sorted.keys) := by
  have members (other : String) :
      other ∈ (sorted.insert key value).keys ↔ other = key ∨ other ∈ sorted.keys := by
    rw [mem_keys, mem_keys, get?_insert]
    split <;> simp [*]
  split
  · next held =>
    refine (List.perm_ext_iff_of_nodup (nodup_keys _) (nodup_keys _)).2 fun other => ?_
    rw [members]
    exact or_iff_right_of_imp fun same => same ▸ mem_keys.2 held
  · next fresh =>
    refine (List.perm_ext_iff_of_nodup (nodup_keys _) ?_).2 fun other => ?_
    · exact List.nodup_cons.2 ⟨fun member => fresh (mem_keys.1 member), nodup_keys _⟩
    · rw [members, List.mem_cons]

/-- Associations are determined by what they hold under each key. -/
theorem ext_get? {sorted other : Sorted α} (same : ∀ key, sorted.get? key = other.get? key) :
    sorted = other := by
  have members (entry : String × α) : entry ∈ sorted.entries ↔ entry ∈ other.entries := by
    rw [← get?_eq_some_iff, ← get?_eq_some_iff, same]
  have permuted : sorted.entries.Perm other.entries :=
    (List.perm_ext_iff_of_nodup sorted.increasing.nodup.of_map other.increasing.nodup.of_map).2 members
  have entries : sorted.entries = other.entries :=
    permuted.eq_of_pairwise (fun a b _ _ less more =>
      absurd (String.lt_trans less more) (String.lt_irrefl a.1)) sorted.increasing other.increasing
  cases sorted
  cases other
  cases entries
  rfl

end Sorted

open Backend

def Backend.Named.warning (named : Named) : Log.Line :=
  ⟨.warn, s!"Backend '{named.id}' is defined more than once, the last definition wins"⟩

/-- The entries whose names occur before them in a list, in the order of the list. -/
def Backend.Named.repeated (backends : List Named) : List Named :=
  (backends.zipIdx.filter fun entry => entry.1.id ∈ (backends.take entry.2).map Named.id).map (·.1)

namespace Backend.Named

theorem repeated_concat (backends : List Named) (named : Named) :
    repeated (backends ++ [named]) =
      repeated backends ++ if named.id ∈ backends.map Named.id then [named] else [] := by
  have before : (backends.zipIdx.filter fun entry =>
        entry.1.id ∈ ((backends ++ [named]).take entry.2).map Named.id) =
      backends.zipIdx.filter fun entry => entry.1.id ∈ (backends.take entry.2).map Named.id := by
    -- An entry has all that stands before it in the shorter list.
    refine List.filter_congr fun entry member => ?_
    have inside := List.snd_lt_of_mem_zipIdx member
    rw [List.take_append_of_le_length (by omega)]
  rw [repeated, List.zipIdx_append, List.filter_append, before, List.map_append, repeated]
  congr 1
  simp only [List.zipIdx_singleton, Nat.zero_add]
  rw [List.filter_singleton]
  simp only [List.take_left]
  split <;> simp [*]

theorem repeated_of_nodup {backends : List Named} (distinct : (backends.map Named.id).Nodup) :
    repeated backends = [] := by
  induction backends using List.reverseRecOn with
  | nil => rfl
  | append_singleton backends named ih =>
    rw [List.map_append, List.nodup_append] at distinct
    obtain ⟨distinctBefore, -, apart⟩ := distinct
    have fresh : named.id ∉ backends.map Named.id := fun member =>
      apart _ member _ (List.mem_singleton_self _) rfl
    rw [repeated_concat, ih distinctBefore, if_neg fresh, List.append_nil]

/-- A name that is defined once is defined by the entry that has it. -/
theorem last?_eq_some_iff {backends : List Named} (distinct : (backends.map Named.id).Nodup)
    {id : String} {config : Config} : last? backends id = some config ↔ ⟨id, config⟩ ∈ backends := by
  have listed {config : Config} (last : last? backends id = some config) : ⟨id, config⟩ ∈ backends := by
    obtain ⟨named, found, rfl⟩ := Option.map_eq_some_iff.1 last
    obtain rfl : named.id = id := by simpa using List.find?_some found
    exact List.mem_reverse.1 (List.mem_of_find?_eq_some found)
  refine ⟨listed, fun member => ?_⟩
  obtain ⟨other, last⟩ := isSome_last? member
  have same : (⟨id, other⟩ : Named) = ⟨id, config⟩ :=
    List.inj_on_of_nodup_map distinct (listed last) member rfl
  rwa [(Named.mk.inj same).2] at last

end Backend.Named

namespace Factory

theorem register_eq (factory : Factory) (named : Named) :
    factory.register named = ⟨⟨factory.backends.insert named.id named.config⟩,
      if factory.backends.contains named.id then [named.warning] else []⟩ := by
  unfold register
  split <;> rfl

theorem registerAll_concat (backends : List Named) (named : Named) (factory : Factory) :
    registerAll (backends ++ [named]) factory =
      (registerAll backends factory).bind fun factory => factory.register named := by
  have step (first : Named) (rest : List Named) (factory : Factory) :
      registerAll (first :: rest) factory = (factory.register first).bind (registerAll rest) := rfl
  induction backends generalizing factory with
  | nil =>
    have last : registerAll [named] factory = (factory.register named).bind Logged.silent := step _ _ _
    rw [List.nil_append, last]
    simp only [Logged.bind, Logged.silent, List.append_nil]
    rfl
  | cons first rest ih =>
    rw [List.cons_append, step, step]
    simp only [Logged.bind, ih, List.append_assoc]

theorem contains_ofList (backends : List Named) (id : String) :
    (ofList backends).value.backends.contains id = true ↔ id ∈ backends.map Named.id := by
  rw [Sorted.contains, get?_ofList, Named.last?, Option.isSome_map, List.find?_isSome]
  simp

theorem ofList_concat (backends : List Named) (named : Named) :
    ofList (backends ++ [named]) = ⟨⟨(ofList backends).value.backends.insert named.id named.config⟩,
      (ofList backends).log ++ if named.id ∈ backends.map Named.id then [named.warning] else []⟩ := by
  rw [ofList, registerAll_concat, Logged.bind, register_eq]
  simp only [← contains_ofList]
  rfl

theorem log_ofList (backends : List Named) :
    (ofList backends).log = (Named.repeated backends).map Named.warning := by
  induction backends using List.reverseRecOn with
  | nil => rfl
  | append_singleton backends named ih =>
    rw [ofList_concat, ih, Named.repeated_concat, List.map_append]
    split <;> rfl

/-- Each entry defines a name first or is warned of. -/
theorem length_log_ofList (backends : List Named) :
    (ofList backends).log.length + (ofList backends).value.ids.length = backends.length := by
  induction backends using List.reverseRecOn with
  | nil => rfl
  | append_singleton backends named ih =>
    have keys := ((ofList backends).value.backends.keys_insert named.id named.config).length_eq
    simp only [ids] at ih
    rw [ofList_concat, ids, keys, List.length_append, List.length_append]
    simp only [contains_ofList]
    split
    · simp only [List.length_singleton]
      omega
    · simp only [List.length_nil, List.length_cons]
      omega

theorem mem_ids {backends : List Named} {id : String} :
    id ∈ (ofList backends).value.ids ↔ id ∈ backends.map Named.id := by
  rw [← contains_ofList]
  exact Sorted.mem_keys

theorem resolve_named (backends : List Named) (id : String) :
    (ofList backends).value.resolve (.named id) = match Named.last? backends id with
      | some config => .ok config
      | none => .error (.unknownBackend id) := by
  rw [← get?_ofList backends id]
  cases held : (ofList backends).value.backends.get? id <;> simp only [resolve, held]

theorem isVolatile_named (backends : List Named) (id : String) :
    (ofList backends).value.isVolatile (.named id) = match Named.last? backends id with
      | some config => ⟨config.isVolatile, []⟩
      | none => ⟨false, [⟨.warn, "Treating backend as persistent: " ++
          (Failure.unknownBackend id).message⟩]⟩ := by
  rw [isVolatile, resolve_named]
  cases Named.last? backends id <;> rfl

/-- Without a repeated name the order of the list does not matter. -/
theorem ofList_perm {backends others : List Named} (permuted : backends.Perm others)
    (distinct : (backends.map Named.id).Nodup) : ofList others = ofList backends := by
  have distinctOthers : (others.map Named.id).Nodup := (permuted.map Named.id).nodup distinct
  have value : (ofList others).value = (ofList backends).value := by
    refine congrArg Factory.mk (Sorted.ext_get? fun id => ?_)
    rw [get?_ofList, get?_ofList]
    refine Option.ext fun config => ?_
    rw [Named.last?_eq_some_iff distinct, Named.last?_eq_some_iff distinctOthers]
    exact permuted.mem_iff.symm
  have log : (ofList others).log = (ofList backends).log := by
    rw [log_ofList, log_ofList, Named.repeated_of_nodup distinct, Named.repeated_of_nodup distinctOthers]
  change (⟨(ofList others).value, (ofList others).log⟩ : Logged Factory) =
    ⟨(ofList backends).value, (ofList backends).log⟩
  rw [value, log]

/-- What a factory of a list holds, and what is said while it is made. -/
theorem ofList_repeats (backends : List Named) :
    let made := ofList backends
    (∀ id, made.value.resolve (.named id) = match Named.last? backends id with
      | some config => .ok config
      | none => .error (.unknownBackend id)) ∧
    made.value.ids.Pairwise (fun id other => Utf8.bytes id < Utf8.bytes other) ∧
    (∀ id, id ∈ made.value.ids ↔ ∃ named ∈ backends, named.id = id) ∧
    made.log = (Named.repeated backends).map Named.warning ∧
    made.log.length = backends.length - made.value.ids.length ∧
    made.value.ids.length ≤ backends.length ∧
    (∀ id, made.value.isVolatile (.named id) = match Named.last? backends id with
      | some config => ⟨config.isVolatile, []⟩
      | none => ⟨false, [⟨.warn, "Treating backend as persistent: " ++
          (Failure.unknownBackend id).message⟩]⟩) ∧
    (∀ (factory : Factory) config, factory.resolve (.inline config) = .ok config) ∧
    ∀ others, backends.Perm others → (backends.map Named.id).Nodup → ofList others = made := by
  have lengths := length_log_ofList backends
  exact ⟨resolve_named backends, (ofList backends).value.backends.pairwise_bytes,
    fun id => mem_ids.trans List.mem_map, log_ofList backends, by omega, by omega,
    isVolatile_named backends, fun _ _ => rfl, fun others permuted => ofList_perm permuted⟩

/-- One name defined twice around another: the last definition counts, with one line for it; the last two
entries can be exchanged. -/
theorem ofList_repeats_twice :
    let first : Named := ⟨"b", .redis Redis.standard⟩
    let other : Named := ⟨"a", .redis (Redis.standard.withPath "r")⟩
    let last : Named := ⟨"b", .cuckoo {}⟩
    (ofList [first, other, last]).value.resolve (.named "b") = .ok (.cuckoo {}) ∧
    (ofList [first, other, last]).log = [first.warning] ∧
    (ofList [first, other, last]).value.ids.length = 2 ∧
    [other, last].Perm [last, other] ∧ ([other, last].map Named.id).Nodup ∧
    ofList [last, other] = ofList [other, last] := by
  intro first other last
  have swapped : [other, last].Perm [last, other] := List.Perm.swap last other []
  have distinct : ([other, last].map Named.id).Nodup := by decide
  obtain ⟨resolves, -, -, log, -⟩ := ofList_repeats [first, other, last]
  obtain ⟨-, -, -, -, -, -, -, -, moves⟩ := ofList_repeats [other, last]
  exact ⟨resolves "b", log, by decide, swapped, distinct, moves _ swapped distinct⟩

end Factory

end KvTables
