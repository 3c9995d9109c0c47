import Mathlib.Data.Set.Card
import ScriptHost.Object

/-!
# Inventories

An inventory is a set that remembers in which order things came to it.  What it holds is a matter of
its history alone: an item is there if the last change that was about it added it (`Present`), and
its place goes by the change that brought it in (`CameAt`), not by later changes that would have
added it once more.  One change keeps this up (`Tells.step`), and so does a whole history
(`Tells.run`).
-/

namespace ScriptHost.Inventory

/-- A change to an inventory. -/
inductive Change where
  | add (item : ObjectId)
  | remove (item : ObjectId)
  deriving DecidableEq

/-- The item that a change is about. -/
def Change.item : Change → ObjectId
  | add item | remove item => item

def Change.apply : Change → Inventory → Inventory
  | add item, inv => inv.add item
  | remove item, inv => inv.remove item

/-- An inventory after changes, one after the other. -/
def run (inv : Inventory) (history : List Change) : Inventory :=
  history.foldl (fun inv change ↦ change.apply inv) inv

/-! ## What a history says -/

/-- The last change that was about an item added it. -/
def Present (history : List Change) (x : ObjectId) : Prop :=
  (history.filter (·.item = x)).getLast? = some (.add x)

/-- The change at a place of the history brought an item in: it was not there before, and has not
been taken out since. -/
structure CameAt (history : List Change) (i : Nat) (x : ObjectId) : Prop where
  added : history[i]? = some (.add x)
  absent : ¬Present (history.take i) x
  kept : .remove x ∉ history.drop (i + 1)

variable {history : List Change} {inv : Inventory} {i j : Nat} {x y : ObjectId} {c : Change}

@[simp]
theorem not_present_nil : ¬Present [] x := by
  simp [Present]

/-- The last change decides about the item that it is about, and about no other one. -/
theorem present_concat :
    Present (history ++ [c]) x ↔ if c.item = x then c = .add x else Present history x := by
  split <;> simp [Present, *]

theorem eq_add_iff (h : c.item = x) : c = .add x ↔ c ≠ .remove x := by
  subst h
  cases c <;> simp [Change.item]

/-- What was added and not taken out since is there. -/
theorem present_of_added (hadded : history[i]? = some (.add x))
    (hkept : .remove x ∉ history.drop (i + 1)) : Present history x := by
  induction history using List.reverseRecOn with
  | nil => simp at hadded
  | append_singleton history c ih =>
    rw [present_concat]
    rcases Nat.lt_or_ge i history.length with hi | hi
    · rw [List.getElem?_append_left hi] at hadded
      rw [List.drop_append_of_le_length hi, List.mem_append, List.mem_singleton, not_or] at hkept
      split
      · exact (eq_add_iff ‹_›).2 (Ne.symm hkept.2)
      · exact ih hadded hkept.1
    · have hlast : c = .add x := by
        rw [List.getElem?_append_right hi, List.getElem?_singleton] at hadded
        split at hadded
        · exact Option.some.inj hadded
        · cases hadded
      simp [hlast, Change.item]

namespace CameAt

theorem present (h : CameAt history i x) : Present history x :=
  present_of_added h.added h.kept

theorem lt_length (h : CameAt history i x) : i < history.length :=
  (List.getElem?_eq_some_iff.1 h.added).1

/-- An item that is there was not brought in again. -/
theorem le (hi : CameAt history i x) (hj : CameAt history j x) : j ≤ i := by
  by_contra hlt
  rw [not_le] at hlt
  refine hj.absent (present_of_added (i := i) ?_ fun hmem ↦ hi.kept ?_)
  · rw [List.getElem?_take_of_lt hlt, hi.added]
  · exact (List.take_sublist j history).drop (i + 1) |>.mem hmem

theorem unique (hi : CameAt history i x) (hj : CameAt history j x) : i = j :=
  Nat.le_antisymm (hj.le hi) (hi.le hj)

/-- A change that does not take the item out leaves the place alone. -/
theorem concat (h : CameAt history i x) (hc : c ≠ .remove x) : CameAt (history ++ [c]) i x where
  added := by rw [List.getElem?_append_left h.lt_length, h.added]
  absent := by
    rw [List.take_append_of_le_length h.lt_length.le]
    exact h.absent
  kept := by
    rw [List.drop_append_of_le_length h.lt_length, List.mem_append, List.mem_singleton, not_or]
    exact ⟨h.kept, hc.symm⟩

/-- The place of an item that is brought in is the last one. -/
theorem last (h : ¬Present history x) : CameAt (history ++ [.add x]) history.length x where
  added := by simp
  absent := by simpa using h
  kept := by simp

end CameAt

/-! ## What an inventory tells of its history -/

/-- An inventory holds what its history says, each item once and in the order in which they were
brought in. -/
structure Tells (inv : Inventory) (history : List Change) : Prop where
  nodup : inv.items.Nodup
  mem_iff : ∀ x, x ∈ inv.items ↔ Present history x
  came : ∀ x ∈ inv.items, ∃ i, CameAt history i x
  ordered : inv.items.Pairwise fun x y ↦ ∃ i j, CameAt history i x ∧ CameAt history j y ∧ i < j

theorem contains_iff : inv.contains x = true ↔ x ∈ inv.items :=
  List.contains_iff_mem

theorem add_of_mem (h : x ∈ inv.items) : inv.add x = inv :=
  if_pos (contains_iff.2 h)

theorem items_add_of_not_mem (h : x ∉ inv.items) : (inv.add x).items = inv.items ++ [x] := by
  rw [add, if_neg fun hcontains ↦ h (contains_iff.1 hcontains)]

theorem mem_remove : y ∈ (inv.remove x).items ↔ y ∈ inv.items ∧ y ≠ x := by
  simp [remove]

namespace Tells

theorem empty : Inventory.empty.Tells [] where
  nodup := .nil
  mem_iff x := by simp [Inventory.empty]
  came _ h := nomatch h
  ordered := .nil

/-- The places of items that stay are as they were. -/
theorem concat_ordered (h : inv.Tells history) {items : List ObjectId}
    (hsub : items.Sublist inv.items) (hc : ∀ x ∈ items, c ≠ .remove x) :
    items.Pairwise fun x y ↦
      ∃ i j, CameAt (history ++ [c]) i x ∧ CameAt (history ++ [c]) j y ∧ i < j := by
  refine (h.ordered.sublist hsub).imp_of_mem ?_
  rintro x y hx hy ⟨i, j, hi, hj, hlt⟩
  exact ⟨i, j, hi.concat (hc x hx), hj.concat (hc y hy), hlt⟩

/-- To add what is there changes nothing. -/
theorem add_present (h : inv.Tells history) (hx : x ∈ inv.items) :
    (inv.add x).Tells (history ++ [.add x]) := by
  rw [add_of_mem hx]
  refine ⟨h.nodup, fun y ↦ ?_, fun y hy ↦ ?_, h.concat_ordered (.refl _) (by simp)⟩
  · rw [present_concat]
    split
    · rename_i heq
      cases heq
      simpa [Change.item] using hx
    · exact h.mem_iff y
  · obtain ⟨i, hi⟩ := h.came y hy
    exact ⟨i, hi.concat (by simp)⟩

/-- To add what is not there puts it last. -/
theorem add_absent (h : inv.Tells history) (hx : x ∉ inv.items) :
    (inv.add x).Tells (history ++ [.add x]) := by
  have hlast : CameAt (history ++ [.add x]) history.length x :=
    .last fun hpresent ↦ hx ((h.mem_iff x).2 hpresent)
  have hitems := items_add_of_not_mem hx
  refine ⟨?_, fun y ↦ ?_, fun y hy ↦ ?_, ?_⟩
  · rw [hitems, List.nodup_append]
    refine ⟨h.nodup, List.nodup_singleton x, fun y hy z hz ↦ ?_⟩
    rintro rfl
    exact hx (List.mem_singleton.1 hz ▸ hy)
  · rw [hitems, present_concat, List.mem_append, List.mem_singleton, h.mem_iff]
    split
    · rename_i heq
      cases heq
      simp [Change.item]
    · rename_i hne
      exact or_iff_left fun heq ↦ hne heq.symm
  · rw [hitems] at hy
    rcases List.mem_append.1 hy with hy | hy
    · obtain ⟨i, hi⟩ := h.came y hy
      exact ⟨i, hi.concat (by simp)⟩
    · cases List.mem_singleton.1 hy
      exact ⟨_, hlast⟩
  · rw [hitems, List.pairwise_append]
    refine ⟨h.concat_ordered (.refl _) (by simp), List.pairwise_singleton .., ?_⟩
    intro y hy z hz
    cases List.mem_singleton.1 hz
    obtain ⟨i, hi⟩ := h.came y hy
    exact ⟨i, _, hi.concat (by simp), hlast, hi.lt_length⟩

/-- To take something out leaves all else where it was. -/
theorem remove (h : inv.Tells history) (x : ObjectId) :
    (inv.remove x).Tells (history ++ [.remove x]) := by
  have hsub : (inv.remove x).items.Sublist inv.items := List.filter_sublist
  have hother : ∀ y ∈ (inv.remove x).items, Change.remove x ≠ .remove y := by
    rintro y hy heq
    cases heq
    exact (mem_remove.1 hy).2 rfl
  refine ⟨h.nodup.sublist hsub, fun y ↦ ?_, fun y hy ↦ ?_, h.concat_ordered hsub hother⟩
  · rw [mem_remove, present_concat, h.mem_iff]
    split <;> simp_all [Change.item, eq_comm]
  · obtain ⟨i, hi⟩ := h.came y (mem_remove.1 hy).1
    exact ⟨i, hi.concat (hother y hy)⟩

theorem step (h : inv.Tells history) (c : Change) : (c.apply inv).Tells (history ++ [c]) := by
  cases c with
  | add x =>
    by_cases hx : x ∈ inv.items
    · exact h.add_present hx
    · exact h.add_absent hx
  | remove x => exact h.remove x

theorem run (history : List Change) : (Inventory.empty.run history).Tells history := by
  induction history using List.reverseRecOn with
  | nil => exact .empty
  | append_singleton history c ih =>
    rw [Inventory.run, List.foldl_append]
    exact ih.step c

/-! ## What follows -/

theorem present_iff (h : inv.Tells history) (x : ObjectId) :
    Present history x ↔ ∃! i, CameAt history i x := by
  constructor
  · intro hpresent
    obtain ⟨i, hi⟩ := h.came x ((h.mem_iff x).2 hpresent)
    exact ⟨i, hi, fun j hj ↦ hj.unique hi⟩
  · rintro ⟨i, hi, -⟩
    exact hi.present

theorem ncard_present (h : inv.Tells history) : {x | Present history x}.ncard = inv.size := by
  have hset : {x | Present history x} = (inv.items.toFinset : Set ObjectId) := by
    ext x
    simp [h.mem_iff]
  rw [hset, Set.ncard_coe_finset, List.toFinset_card_of_nodup h.nodup, size]

/-- Nothing but the item is missing when it was taken out. -/
theorem items_remove (h : inv.Tells history) (x : ObjectId) :
    (inv.remove x).items = inv.items.erase x :=
  (h.nodup.erase_eq_filter x).symm

/-- There are fewer items exactly if there was one to take out. -/
theorem removes_iff (h : inv.Tells history) (x : ObjectId) :
    inv.removes x = true ↔ x ∈ inv.items := by
  rw [removes, bne_iff_ne, size, size, h.items_remove, List.length_erase]
  split
  · rename_i hx
    have := List.length_pos_of_mem hx
    simp only [hx, iff_true]
    omega
  · rename_i hx
    simp [hx]

end Tells

/-- An inventory is an ordered set, whatever is added to it and taken out of it.

- It holds no item twice.  It holds those that the last change about them added, and counts them.
- For each of them there is one change that brought it in, and this is the order in which they are
  listed.  To add one that is there does not move it, and one that comes back is put last.
- To take an item out succeeds if it is there, and leaves the others in their order. -/
theorem lists_in_order_of_arrival (history : List Change) :
    let inv := Inventory.empty.run history
    inv.items.Nodup ∧
      (∀ x, inv.contains x = true ↔ Present history x) ∧
      inv.size = {x | Present history x}.ncard ∧
      (∀ x, Present history x ↔ ∃! i, CameAt history i x) ∧
      inv.items.Pairwise (fun x y ↦ ∃ i j, CameAt history i x ∧ CameAt history j y ∧ i < j) ∧
      (∀ x, Present history x → inv.add x = inv) ∧
      (∀ x, ¬Present history x → (inv.add x).items = inv.items ++ [x]) ∧
      ∀ x, (inv.removes x = true ↔ Present history x) ∧
        (inv.remove x).items = inv.items.erase x := by
  intro inv
  have htells : inv.Tells history := .run history
  refine ⟨htells.nodup, fun x ↦ ?_, htells.ncard_present.symm, htells.present_iff,
    htells.ordered, fun x hx ↦ ?_, fun x hx ↦ ?_, fun x ↦ ⟨?_, htells.items_remove x⟩⟩
  · rw [contains_iff, htells.mem_iff]
  · exact add_of_mem ((htells.mem_iff x).2 hx)
  · exact items_add_of_not_mem fun hmem ↦ hx ((htells.mem_iff x).1 hmem)
  · rw [htells.removes_iff, htells.mem_iff]

-- The item that left and came back is the last one.
example : (empty.run [.add ⟨2⟩, .add ⟨3⟩, .add ⟨2⟩, .remove ⟨2⟩, .add ⟨2⟩]).items = [⟨3⟩, ⟨2⟩] := by
  decide

end ScriptHost.Inventory
