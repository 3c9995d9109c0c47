import ScriptHost.SortedMap

/-!
# Entries and the view of a finite map

`get?` and the list of entries say the same about a `SortedMap` (`get?_eq_some_iff`), because its
keys strictly ascend.  What the changes do to the entries follows from what they do to the view,
except for one fact about order: an insertion under a new key adds one entry and moves none
(`insert_perm`).  Maps with the same view are equal (`eq_of_get?_eq`).
-/

namespace ScriptHost.SortedMap

variable {κ ν : Type} [Ord κ]

/-- The keys strictly ascend. -/
theorem pairwise_keys (m : SortedMap κ ν) : m.keys.Pairwise fun a b ↦ compare a b = .lt :=
  List.pairwise_map.2 m.sorted

theorem isEmpty_of_mem_keys {m : SortedMap κ ν} {k : κ} (h : k ∈ m.keys) : m.isEmpty = false := by
  obtain ⟨e, he, -⟩ := List.mem_map.1 h
  exact List.isEmpty_eq_false_iff.2 (List.ne_nil_of_mem he)

variable [Std.LawfulEqOrd κ]

/-- A key that comes before another is another key. -/
theorem ne_of_compare_lt {a b : κ} (h : compare a b = .lt) : a ≠ b := by
  rintro rfl
  simp at h

/-! ## The view of the entries -/

theorem mem_of_lookup {k : κ} {v : ν} {l : List (κ × ν)} (h : lookup k l = some v) :
    (k, v) ∈ l := by
  induction l with
  | nil => cases h
  | cons e rest ih =>
    obtain ⟨k', v'⟩ := e
    unfold lookup at h
    split at h
    · rename_i heq
      obtain rfl := Std.LawfulEqCmp.eq_of_compare heq
      cases h
      exact List.mem_cons_self
    · exact List.mem_cons_of_mem _ (ih h)

theorem lookup_of_mem {k : κ} {v : ν} {l : List (κ × ν)}
    (hl : l.Pairwise fun a b ↦ compare a.1 b.1 = .lt) (h : (k, v) ∈ l) :
    lookup k l = some v := by
  induction l with
  | nil => cases h
  | cons e rest ih =>
    obtain ⟨k', v'⟩ := e
    rw [List.pairwise_cons] at hl
    rcases List.mem_cons.1 h with heq | hmem
    · cases heq
      simp [lookup]
    · have hne : compare k k' ≠ .eq := fun heq ↦
        ne_of_compare_lt (hl.1 _ hmem) (Std.LawfulEqCmp.eq_of_compare heq).symm
      rw [lookup, if_neg hne]
      exact ih hl.2 hmem

/-- The view shows exactly the entries. -/
theorem get?_eq_some_iff {m : SortedMap κ ν} {k : κ} {v : ν} :
    m.get? k = some v ↔ (k, v) ∈ m.entries :=
  ⟨mem_of_lookup, lookup_of_mem m.sorted⟩

theorem get?_eq_none_iff {m : SortedMap κ ν} {k : κ} :
    m.get? k = none ↔ ∀ e ∈ m.entries, e.1 ≠ k := by
  constructor
  · rintro h ⟨k', v⟩ he rfl
    rw [get?_eq_some_iff.2 he] at h
    cases h
  · intro h
    cases hv : m.get? k with
    | none => rfl
    | some v => exact absurd rfl (h _ (get?_eq_some_iff.1 hv))

theorem mem_keys {m : SortedMap κ ν} {k : κ} : k ∈ m.keys ↔ ∃ v, m.get? k = some v := by
  constructor
  · intro h
    obtain ⟨⟨k', v⟩, he, rfl⟩ := List.mem_map.1 h
    exact ⟨v, get?_eq_some_iff.2 he⟩
  · rintro ⟨v, h⟩
    exact List.mem_map.2 ⟨(k, v), get?_eq_some_iff.1 h, rfl⟩

/-- Maps that show the same are the same. -/
theorem eq_of_get?_eq [Std.TransOrd κ] {m m' : SortedMap κ ν} (h : ∀ k, m.get? k = m'.get? k) :
    m = m' := by
  have hnodup : ∀ m : SortedMap κ ν, m.entries.Nodup := fun m ↦
    m.sorted.imp fun hlt heq ↦ ne_of_compare_lt hlt (congrArg Prod.fst heq)
  have hperm : m.entries.Perm m'.entries := by
    rw [List.perm_ext_iff_of_nodup (hnodup m) (hnodup m')]
    rintro ⟨k, v⟩
    rw [← get?_eq_some_iff, ← get?_eq_some_iff, h]
  ext1
  refine hperm.eq_of_pairwise (fun a b _ _ hab hba ↦ ?_) m.sorted m'.sorted
  have hgt : compare a.1 b.1 = .gt := Std.OrientedCmp.gt_iff_lt.2 hba
  rw [hab] at hgt
  cases hgt

/-! ## Entries after a change -/

theorem insertEntry_perm {k : κ} (v : ν) {l : List (κ × ν)} (h : ∀ e ∈ l, e.1 ≠ k) :
    (insertEntry k v l).Perm ((k, v) :: l) := by
  induction l with
  | nil => exact .refl _
  | cons e rest ih =>
    obtain ⟨k', v'⟩ := e
    unfold insertEntry
    split
    · exact .refl _
    · rename_i heq
      exact absurd (Std.LawfulEqCmp.eq_of_compare heq).symm (h _ List.mem_cons_self)
    · exact ((ih fun e he ↦ h e (List.mem_cons_of_mem _ he)).cons _).trans (.swap ..)

/-- Under a new key, an insertion adds one entry and loses none. -/
theorem insert_perm [Std.TransOrd κ] {m : SortedMap κ ν} {k : κ} (v : ν) (h : m.get? k = none) :
    (m.insert k v).entries.Perm ((k, v) :: m.entries) :=
  insertEntry_perm v (get?_eq_none_iff.1 h)

theorem mem_of_mem_insert [Std.TransOrd κ] {m : SortedMap κ ν} {k : κ} {v : ν} {e : κ × ν}
    (h : e ∈ (m.insert k v).entries) : e = (k, v) ∨ e ∈ m.entries :=
  mem_insertEntry h

/-- Of the keys of a map, a filter keeps those whose entry passes the test. -/
theorem contains_filter {m : SortedMap κ ν} {p : κ → ν → Bool} {e : κ × ν} (he : e ∈ m.entries) :
    (m.filter p).contains e.1 = p e.1 e.2 := by
  obtain ⟨k, v⟩ := e
  cases hp : p k v with
  | true =>
    rw [contains, get?_eq_some_iff.2 (List.mem_filter.2 ⟨he, hp⟩)]
    rfl
  | false =>
    rw [contains, get?_eq_none_iff.2, Option.isSome_none]
    rintro ⟨k', v'⟩ hmem rfl
    obtain ⟨hin, hpass⟩ := List.mem_filter.1 hmem
    have hv : some v = some v' :=
      (get?_eq_some_iff.2 he).symm.trans (get?_eq_some_iff.2 hin)
    cases hv
    exact Bool.noConfusion (hp.symm.trans hpass)

/-! ## The view after a change -/

variable [DecidableEq κ]

theorem mem_keys_insert [Std.TransOrd κ] {m : SortedMap κ ν} {k k' : κ} {v : ν} :
    k' ∈ (m.insert k v).keys ↔ k' = k ∨ k' ∈ m.keys := by
  rw [mem_keys, mem_keys, get?_insert]
  by_cases h : k' = k <;> simp [h]

theorem mem_keys_erase {m : SortedMap κ ν} {k k' : κ} :
    k' ∈ (m.erase k).keys ↔ k' ≠ k ∧ k' ∈ m.keys := by
  rw [mem_keys, mem_keys, get?_erase]
  by_cases h : k' = k <;> simp [h]

theorem get?_modify [Std.TransOrd κ] (m : SortedMap κ ν) (k k' : κ) (f : ν → ν) :
    (m.modify k f).get? k' = if k' = k then (m.get? k).map f else m.get? k' := by
  unfold modify
  split
  · rename_i v hv
    rw [get?_insert, hv]
    rfl
  · rename_i hnone
    split
    · rename_i heq
      rw [heq, hnone]
      rfl
    · rfl

end ScriptHost.SortedMap
