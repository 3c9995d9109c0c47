import Mathlib.Logic.Function.Basic
import ScriptHost.Object.Container
import ScriptHost.Proofs.ObjectId
import ScriptHost.Proofs.SortedMap

/-!
# Indices of the objects

An index maps a key to the numbers of the objects that have it.  It is `Exact` if it can be read off
a view of the objects: under each key are the numbers of the objects with that key and no others,
and no empty set is kept.  The two changes of an index keep step with a view that gains or loses an
object (`Exact.add`, `Exact.remove`), whatever the key is of, so that one lemma serves types and
tags.
-/

namespace ScriptHost.ObjectIndex

variable {κ : Type} [Ord κ]

theorem mem_ids {index : ObjectIndex κ} {key : κ} {id : ObjectId} :
    id ∈ index.ids key ↔ ∃ ids, index.get? key = some ids ∧ id ∈ ids.keys := by
  unfold ids
  cases index.get? key with
  | none => simp
  | some ids => simp

/-- The numbers under a key ascend. -/
theorem pairwise_ids (index : ObjectIndex κ) (key : κ) : (index.ids key).Pairwise (· < ·) := by
  unfold ids
  cases index.get? key with
  | none => exact .nil
  | some ids => exact ids.pairwise_keys.imp ObjectId.compare_eq_lt_iff.1

variable [Std.TransOrd κ] [Std.LawfulEqOrd κ] [DecidableEq κ]
variable {index : ObjectIndex κ} {key key' : κ} {id id' : ObjectId}

theorem get?_add : (index.add key id).get? key' =
    if key' = key then some (((index.get? key).getD ∅).insert id ()) else index.get? key' :=
  SortedMap.get?_insert ..

/-- A set that loses its last number is not kept. -/
theorem get?_remove : (index.remove key id).get? key' =
    if key' = key then ((index.get? key).map (·.erase id)).filter (!·.isEmpty)
    else index.get? key' := by
  unfold remove
  cases hkey : index.get? key with
  | none =>
    dsimp only
    split
    · rename_i heq
      rw [heq, hkey]
      rfl
    · rfl
  | some ids =>
    dsimp only
    split
    · rename_i hempty
      rw [SortedMap.get?_erase, Option.map_some, Option.filter_some, hempty]
      rfl
    · rename_i hkept
      rw [SortedMap.get?_insert, Option.map_some, Option.filter_some,
        Bool.eq_false_iff.2 hkept]
      rfl

/-! ## Members after a change -/

theorem mem_ids_add : id' ∈ (index.add key id).ids key' ↔
    key' = key ∧ id' = id ∨ id' ∈ index.ids key' := by
  rw [mem_ids, mem_ids, get?_add]
  by_cases hkey : key' = key
  · subst hkey
    rw [if_pos rfl]
    cases index.get? key' with
    | none => simp [SortedMap.mem_keys]
    | some ids => simp [SortedMap.mem_keys_insert]
  · simp [hkey]

theorem mem_ids_remove : id' ∈ (index.remove key id).ids key' ↔
    id' ∈ index.ids key' ∧ ¬(key' = key ∧ id' = id) := by
  rw [mem_ids, mem_ids, get?_remove]
  by_cases hkey : key' = key
  · subst hkey
    rw [if_pos rfl]
    cases index.get? key' with
    | none => simp
    | some ids =>
      have herase : id' ∈ (ids.erase id).keys ↔ id' ≠ id ∧ id' ∈ ids.keys :=
        SortedMap.mem_keys_erase
      rw [Option.map_some, Option.filter_some]
      constructor
      · rintro ⟨kept, hkept, hmem⟩
        obtain ⟨-, hsome⟩ := Option.ite_none_right_eq_some.1 hkept
        cases hsome
        obtain ⟨hne, hin⟩ := herase.1 hmem
        exact ⟨⟨ids, rfl, hin⟩, fun h ↦ hne h.2⟩
      · rintro ⟨⟨_, hsome, hin⟩, hne⟩
        cases hsome
        have hmem := herase.2 ⟨fun h ↦ hne ⟨rfl, h⟩, hin⟩
        refine ⟨ids.erase id, if_pos ?_, hmem⟩
        rw [SortedMap.isEmpty_of_mem_keys hmem]
        rfl
  · simp [hkey]

/-! ## Agreement with the objects -/

/-- Under each key are the numbers of the objects with that key, and no set without a number is
kept. -/
structure Exact (index : ObjectIndex κ) (keyOf : Object → κ) (view : ObjectId → Option Object) :
    Prop where
  mem_iff : ∀ key id, id ∈ index.ids key ↔ ∃ o, view id = some o ∧ keyOf o = key
  occupied : ∀ key ids, index.get? key = some ids → ids.isEmpty = false

namespace Exact

variable {keyOf : Object → κ} {view : ObjectId → Option Object} {o o' : Object}

omit [Std.TransOrd κ] [Std.LawfulEqOrd κ] [DecidableEq κ] in
theorem empty : (∅ : ObjectIndex κ).Exact keyOf fun _ ↦ none where
  mem_iff := fun _ _ ↦ ⟨fun h ↦ (List.not_mem_nil h).elim, fun ⟨_, h, _⟩ ↦ nomatch h⟩
  occupied := fun _ _ h ↦ nomatch h

theorem add (h : index.Exact keyOf view) (hid : view id = none) (o : Object) :
    (index.add (keyOf o) id).Exact keyOf (Function.update view id (some o)) where
  mem_iff := by
    intro key' id'
    rw [mem_ids_add, h.mem_iff]
    by_cases heq : id' = id
    · subst heq
      simp [hid, eq_comm]
    · simp [heq]
  occupied := by
    intro key' ids hids
    rw [get?_add] at hids
    split at hids
    · cases hids
      exact SortedMap.isEmpty_of_mem_keys (SortedMap.mem_keys_insert.2 (.inl rfl))
    · exact h.occupied key' ids hids

theorem remove (h : index.Exact keyOf view) (hid : view id = some o) :
    (index.remove (keyOf o) id).Exact keyOf (Function.update view id none) where
  mem_iff := by
    intro key' id'
    rw [mem_ids_remove, h.mem_iff]
    by_cases heq : id' = id
    · subst heq
      simp [hid, eq_comm]
    · simp [heq]
  occupied := by
    intro key' ids hids
    rw [get?_remove] at hids
    split at hids
    · exact Bool.not_eq_true' _ ▸ (Option.filter_eq_some_iff.1 hids).2
    · exact h.occupied key' ids hids

omit [Std.TransOrd κ] [Std.LawfulEqOrd κ] [DecidableEq κ] in
/-- A change to an object that leaves its key alone leaves the index exact. -/
theorem replace (h : index.Exact keyOf view) (hid : view id = some o) (hkey : keyOf o' = keyOf o) :
    index.Exact keyOf (Function.update view id (some o')) where
  mem_iff := by
    intro key' id'
    rw [h.mem_iff]
    by_cases heq : id' = id
    · subst heq
      simp [hid, hkey]
    · simp [heq]
  occupied := h.occupied

end Exact

end ScriptHost.ObjectIndex
