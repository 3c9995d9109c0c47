import ScriptHost.Proofs.Object.Search

/-!
# Searches over a container that stays as it is

If nothing happens to the objects, a search is another way to write a list: what it still has to
find is the list of the matching numbers that are ahead of it (`Search.ahead`), and a step takes the
first of them off (`ahead_eq_cons`).  A new search has all matching numbers ahead of it, and the
indices have them in the order of the objects, so to drain it is to go through all objects and keep
those that match (`drain_start`).  Nor is there another order in which the index by tag counts
(`findByTag?_eq`).
-/

namespace ScriptHost

instance (key : SearchKey) : DecidablePred key.Matches := fun o ↦
  match key with
  | .all => isTrue trivial
  | .type t => inferInstanceAs (Decidable (o.type = t))
  | .tag text => inferInstanceAs (Decidable (o.tag = text))

/-! ## All objects -/

namespace Container

variable {c : Container} {key : SearchKey} {o : Object}

/-- The matching objects, by ascending number. -/
def scan (c : Container) (key : SearchKey) : List Object :=
  c.toList.filter fun o ↦ key.Matches o

theorem length_scan_le (c : Container) (key : SearchKey) : (c.scan key).length ≤ c.size :=
  Nat.le_trans (List.length_filter_le _ _) (Nat.le_of_eq (List.length_map _))

namespace WellFormed

theorem mem_toList (h : c.WellFormed) : o ∈ c.toList ↔ c.get? o.id = some o := by
  constructor
  · intro ho
    obtain ⟨⟨id, o'⟩, he, rfl⟩ := List.mem_map.1 ho
    have hid : c.get? id = some o' := SortedMap.get?_eq_some_iff.2 he
    rwa [(h.filed id o' hid).1]
  · intro ho
    exact List.mem_map.2 ⟨(o.id, o), SortedMap.get?_eq_some_iff.1 ho, rfl⟩

/-- The objects come by ascending number. -/
theorem pairwise_toList (h : c.WellFormed) : c.toList.Pairwise (·.id < ·.id) := by
  refine List.pairwise_map.2 (c.objects.sorted.imp_of_mem fun {e e'} he he' hlt ↦ ?_)
  have hown : ∀ e ∈ c.objects.entries, e.2.id = e.1 := fun e he ↦
    (h.filed e.1 e.2 (SortedMap.get?_eq_some_iff.2 he)).1
  rw [hown e he, hown e' he']
  exact ObjectId.compare_eq_lt_iff.1 hlt

/-- The indices have the matching objects in the same order. -/
theorem map_id_scan (h : c.WellFormed) (key : SearchKey) :
    (c.scan key).map (·.id) = c.idsFor key := by
  have hsorted : ((c.scan key).map (·.id)).Pairwise (· < ·) :=
    List.pairwise_map.2 (h.pairwise_toList.filter _)
  have hsorted' := c.pairwise_idsFor key
  have hperm : ((c.scan key).map (·.id)).Perm (c.idsFor key) := by
    rw [List.perm_ext_iff_of_nodup (hsorted.imp ObjectId.ne_of_lt) (hsorted'.imp ObjectId.ne_of_lt)]
    intro id
    rw [h.mem_idsFor, List.mem_map]
    constructor
    · rintro ⟨o, ho, rfl⟩
      obtain ⟨hmem, hmatch⟩ := List.mem_filter.1 ho
      exact ⟨o, h.mem_toList.1 hmem, of_decide_eq_true hmatch⟩
    · rintro ⟨o, ho, hmatch⟩
      obtain rfl := (h.filed id o ho).1
      exact ⟨o, List.mem_filter.2 ⟨h.mem_toList.2 ho, decide_eq_true hmatch⟩, rfl⟩
  exact hperm.eq_of_pairwise (fun a b _ _ hab hba ↦ absurd (UInt32.lt_trans hab hba)
    (ObjectId.lt_irrefl a)) hsorted hsorted'

/-- The index by tag counts off the objects that have the tag. -/
theorem findByTag?_eq (h : c.WellFormed) (tag : String) (nth : Nat) :
    c.findByTag? tag nth = (c.scan (.tag tag))[nth]? := by
  have hids : c.byTag.ids tag = (c.scan (.tag tag)).map (·.id) := (h.map_id_scan (.tag tag)).symm
  rw [findByTag?, hids, List.getElem?_map]
  cases hnth : (c.scan (.tag tag))[nth]? with
  | none => rfl
  | some o => exact h.mem_toList.1 (List.mem_filter.1 (List.mem_of_getElem? hnth)).1

end WellFormed

end Container

/-! ## What a search has ahead of it -/

namespace Search

variable {s : Search} {c : Container} {id : ObjectId} {key : SearchKey}

/-- The numbers that are left to find, as long as the container stays as it is. -/
def ahead (s : Search) (c : Container) : List ObjectId :=
  (c.idsFor s.key).filter s.isAhead

theorem upcoming_eq_head? (s : Search) (c : Container) : s.upcoming c = (s.ahead c).head? :=
  (List.head?_filter ..).symm

/-- A step takes the first number off. -/
theorem ahead_eq_cons (h : s.upcoming c = some id) :
    s.ahead c = id :: { s with last := some id, current := id }.ahead c := by
  let s' : Search := { s with last := some id, current := id }
  change s.ahead c = id :: s'.ahead c
  obtain ⟨rest, hrest⟩ : ∃ rest, s.ahead c = id :: rest :=
    List.head?_eq_some_iff.1 ((s.upcoming_eq_head? c).symm.trans h)
  have hbeyond : ∀ id' ∈ rest, id < id' :=
    (List.pairwise_cons.1 (hrest ▸ (c.pairwise_idsFor s.key).filter s.isAhead)).1
  -- what is ahead of the search then is ahead of it now and beyond the number found
  have hahead : ∀ id', s'.isAhead id' = (decide (id < id') && s.isAhead id') := by
    intro id'
    have hfound := isAhead_iff.1 (upcoming_eq_some h).2.1
    rw [Bool.eq_iff_iff, Bool.and_eq_true, decide_eq_true_eq, isAhead_iff, isAhead_iff]
    constructor
    · rintro ⟨hpast, hbelow⟩
      have hlt := hpast id rfl
      exact ⟨hlt, fun l hl ↦ UInt32.lt_trans (hfound.1 l hl) hlt, hbelow⟩
    · rintro ⟨hlt, -, hbelow⟩
      refine ⟨fun l hl ↦ ?_, hbelow⟩
      cases hl
      exact hlt
  have hleft : s'.ahead c = (s.ahead c).filter (id < ·) := by
    rw [ahead, ahead, List.filter_filter]
    exact List.filter_congr fun id' _ ↦ hahead id'
  rw [hleft, hrest, List.filter_cons_of_neg (by simpa using ObjectId.lt_irrefl id),
    List.filter_eq_self.2 fun id' hid' ↦ decide_eq_true (hbeyond id' hid')]

/-- Steps enough take all numbers off, and find their objects. -/
theorem take_of_ahead (hc : c.WellFormed) {found : List Object}
    (hfound : ∀ o ∈ found, c.get? o.id = some o) (hdone : s.done = false)
    (hahead : s.ahead c = found.map (·.id)) {steps : Nat} (hsteps : found.length < steps) :
    (take c steps s).1 = found ∧ (take c steps s).2.done = true := by
  induction found generalizing s steps with
  | nil =>
    obtain ⟨steps, rfl⟩ := Nat.exists_eq_add_of_lt hsteps
    have hnone : s.upcoming c = none := by
      rw [upcoming_eq_head?, hahead]
      rfl
    have hnext : s.next c = (none, { s with done := true, current := .invalid }) := by
      rw [next, step, hdone, hnone]
      exact congrArg (·, _) hc.get?_invalid
    rw [take, hnext]
    exact ⟨rfl, rfl⟩
  | cons o rest ih =>
    obtain ⟨steps, rfl⟩ := Nat.exists_eq_add_of_lt hsteps
    have hsome : s.upcoming c = some o.id := by
      rw [upcoming_eq_head?, hahead]
      rfl
    have hnext : s.next c = (some o, { s with last := some o.id, current := o.id }) := by
      rw [next, step, hdone, hsome]
      exact congrArg (·, _) (hfound o List.mem_cons_self)
    have hleft : { s with last := some o.id, current := o.id }.ahead c = rest.map (·.id) := by
      rw [ahead_eq_cons hsome] at hahead
      exact (List.cons.inj hahead).2
    obtain ⟨hlist, hend⟩ := ih (s := { s with last := some o.id, current := o.id })
      (fun o' ho' ↦ hfound o' (List.mem_cons_of_mem _ ho')) hdone hleft
      (Nat.lt_add_right steps (Nat.lt_succ_self rest.length))
    rw [take, hnext]
    exact ⟨congrArg (o :: ·) hlist, hend⟩

theorem ahead_start (hc : c.WellFormed) (key : SearchKey) :
    (start c key).ahead c = c.idsFor key := by
  refine List.filter_eq_self.2 fun id hid ↦ isAhead_iff.2 ⟨fun _ hnone ↦ ?_, ?_⟩
  · cases hnone
  · obtain ⟨o, ho, -⟩ := hc.mem_idsFor.1 hid
    exact (hc.filed id o ho).2.2

/-- More steps than there are matching objects find all of them, and come to the end. -/
theorem take_start (hc : c.WellFormed) (key : SearchKey) {steps : Nat}
    (hsteps : (c.scan key).length < steps) :
    (take c steps (start c key)).1 = c.scan key ∧ (take c steps (start c key)).2.done = true := by
  refine take_of_ahead hc (fun o ho ↦ ?_) rfl ?_ hsteps
  · exact hc.mem_toList.1 (List.mem_filter.1 ho).1
  · rw [ahead_start hc, hc.map_id_scan]

/-- To drain a new search is to go through all objects and keep those that match; and it comes to
its end. -/
theorem drain_start (hc : c.WellFormed) (key : SearchKey) :
    ((start c key).drain c).1 = c.scan key ∧ ((start c key).drain c).2.done = true :=
  take_start hc key (Nat.lt_succ_of_le (c.length_scan_le key))

end Search

end ScriptHost
