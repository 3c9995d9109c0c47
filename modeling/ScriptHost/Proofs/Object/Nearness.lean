import ScriptHost.Object.Distance
import ScriptHost.Proofs.Object.Scan

/-!
# The order of nearness

Objects are compared by their distance to a place, and where this does not tell them apart by their
number: `Object.Nearer`.  The sort knows nothing of numbers.  It keeps the order of what it is
given, which is that of the numbers (`pairwise_sortNear`).

Where every element comes before those that follow it, the element with so many before it is the one
at that index (`getElem?_eq_some_iff_countP`), and so the nearest objects are found by counting
(`WellFormed.ranksNearest`).
-/

namespace ScriptHost

/-- In a list in strict order, the element at an index has as many before it. -/
theorem countP_getElem_of_pairwise {α : Type} {r : α → α → Prop} [DecidableRel r]
    (hasymm : ∀ a b, r a b → ¬r b a) {l : List α} (h : l.Pairwise r) {n : Nat} (hn : n < l.length) :
    l.countP (r · l[n]) = n := by
  induction l generalizing n with
  | nil => cases hn
  | cons a rest ih =>
    obtain ⟨hfirst, hrest⟩ := List.pairwise_cons.1 h
    cases n with
    | zero =>
      refine List.countP_eq_zero.2 fun b hb ↦ ?_
      rw [decide_eq_true_eq]
      rcases List.mem_cons.1 hb with rfl | hb
      · exact fun hself ↦ hasymm _ _ hself hself
      · exact hasymm _ _ (hfirst b hb)
    | succ n =>
      have hn' : n < rest.length := Nat.lt_of_succ_lt_succ hn
      have hbefore : decide (r a rest[n]) = true := decide_eq_true (hfirst _ (List.getElem_mem hn'))
      rw [List.getElem_cons_succ, List.countP_cons, ih hrest hn', if_pos hbefore]

theorem getElem?_eq_some_iff_countP {α : Type} {r : α → α → Prop} [DecidableRel r]
    (hasymm : ∀ a b, r a b → ¬r b a) {l : List α} (h : l.Pairwise r) {n : Nat} {a : α} :
    l[n]? = some a ↔ a ∈ l ∧ l.countP (r · a) = n := by
  constructor
  · intro hget
    obtain ⟨hn, rfl⟩ := List.getElem?_eq_some_iff.1 hget
    exact ⟨List.getElem_mem hn, countP_getElem_of_pairwise hasymm h hn⟩
  · rintro ⟨hmem, rfl⟩
    obtain ⟨m, hm, rfl⟩ := List.getElem_of_mem hmem
    rw [countP_getElem_of_pairwise hasymm h hm]
    exact List.getElem?_eq_getElem hm

/-! ## Nearer than another -/

namespace Object

variable {place : Vector3} {a b : Object}

/-- One object comes before another, seen from a place: it is less far away, or as far and its
number is less. -/
def Nearer (place : Vector3) (a b : Object) : Prop :=
  (a.distanceTo place).totalCompare (b.distanceTo place) = .lt ∨
    (a.distanceTo place).totalCompare (b.distanceTo place) = .eq ∧ a.id < b.id

instance (place : Vector3) : DecidableRel (Nearer place) := fun _ _ ↦
  inferInstanceAs (Decidable (_ ∨ _ ∧ _))

/-- Distances are compared by their places in one linear order, not-a-numbers and infinities among
them. -/
theorem nearer_iff :
    Nearer place a b ↔ (a.distanceTo place).rank < (b.distanceTo place).rank ∨
      (a.distanceTo place).rank = (b.distanceTo place).rank ∧ a.id < b.id := by
  rw [Nearer, Single.totalCompare, Std.compare_eq_lt, Std.compare_eq_iff_eq]

theorem Nearer.asymm (h : Nearer place a b) : ¬Nearer place b a := by
  intro h'
  rw [nearer_iff, ObjectId.lt_iff] at h h'
  omega

end Object

theorem compareNear_ne_gt_iff {place : Vector3} {a b : Object} :
    (compareNear place a b != .gt) = true ↔
      (a.distanceTo place).rank ≤ (b.distanceTo place).rank := by
  rw [bne_iff_ne, compareNear, Single.totalCompare, ne_eq, Std.compare_eq_gt, Int.not_lt]

theorem compareNear_trans (place : Vector3) (a b c : Object)
    (hab : (compareNear place a b != .gt) = true) (hbc : (compareNear place b c != .gt) = true) :
    (compareNear place a c != .gt) = true := by
  rw [compareNear_ne_gt_iff] at hab hbc ⊢
  exact Int.le_trans hab hbc

theorem compareNear_total (place : Vector3) (a b : Object) :
    ((compareNear place a b != .gt) || (compareNear place b a != .gt)) = true := by
  rw [Bool.or_eq_true, compareNear_ne_gt_iff, compareNear_ne_gt_iff]
  exact Int.le_total _ _

/-! ## The sort -/

theorem sortNear_perm (place : Vector3) (objects : List Object) :
    (sortNear place objects).Perm objects :=
  List.mergeSort_perm ..

theorem id_le_of_getElem? {objects : List Object} (h : objects.Pairwise (·.id < ·.id)) {i j : Nat}
    {a b : Object} (ha : objects[i]? = some a) (hb : objects[j]? = some b) (hij : i ≤ j) :
    a.id ≤ b.id := by
  rcases Nat.eq_or_lt_of_le hij with rfl | hlt
  · cases ha.symm.trans hb
    exact UInt32.le_refl _
  · obtain ⟨hi, rfl⟩ := List.getElem?_eq_some_iff.1 ha
    obtain ⟨hj, rfl⟩ := List.getElem?_eq_some_iff.1 hb
    exact UInt32.le_of_lt (List.pairwise_iff_getElem.1 h i j hi hj hlt)

/-- The sort puts less far objects first, and leaves objects that are as far as each other in their
order. -/
theorem pairwise_sortNear_stable (place : Vector3) {objects : List Object}
    (h : objects.Pairwise (·.id < ·.id)) :
    (sortNear place objects).Pairwise fun a b ↦
      (a.distanceTo place).rank ≤ (b.distanceTo place).rank ∧
        ((b.distanceTo place).rank ≤ (a.distanceTo place).rank → a.id ≤ b.id) := by
  -- to sort is to sort by distance and index
  rw [sortNear, ← List.mergeSort_zipIdx, List.pairwise_map]
  refine (List.pairwise_mergeSort (List.zipIdxLE_trans (compareNear_trans place))
    (List.zipIdxLE_total (compareNear_total place)) objects.zipIdx).imp_of_mem ?_
  rintro ⟨a, i⟩ ⟨b, j⟩ ha hb hle
  rw [List.mem_mergeSort, List.mem_zipIdx_iff_getElem?] at ha hb
  change (if compareNear place a b != .gt then
    if compareNear place b a != .gt then decide (i ≤ j) else true else false) = true at hle
  by_cases hab : (compareNear place a b != .gt) = true
  · rw [if_pos hab] at hle
    refine ⟨compareNear_ne_gt_iff.1 hab, fun hba ↦ ?_⟩
    rw [if_pos (compareNear_ne_gt_iff.2 hba)] at hle
    exact id_le_of_getElem? h ha hb (of_decide_eq_true hle)
  · rw [if_neg hab] at hle
    cases hle

/-- Objects that are given by ascending number are sorted by nearness. -/
theorem pairwise_sortNear (place : Vector3) {objects : List Object}
    (h : objects.Pairwise (·.id < ·.id)) :
    (sortNear place objects).Pairwise (Object.Nearer place) := by
  have hdistinct : (sortNear place objects).Pairwise fun a b ↦ a.id ≠ b.id :=
    ((sortNear_perm place objects).pairwise_iff fun hne heq ↦ hne heq.symm).2
      (h.imp ObjectId.ne_of_lt)
  refine ((pairwise_sortNear_stable place h).and hdistinct).imp ?_
  rintro a b ⟨⟨hle, hstable⟩, hne⟩
  rw [Object.nearer_iff, ObjectId.lt_iff]
  rw [ne_eq, ObjectId.eq_iff] at hne
  rw [ObjectId.le_iff] at hstable
  omega

/-! ## The nearest objects -/

/-- An object is one of those among which the nearest to a target is sought: not the target itself,
in the same area, of a type in the mask, with a position and with the tag if one is given. -/
def Object.IsCandidate (target : Object) (mask : TypeMask) (tag : Option String) (o : Object) :
    Prop :=
  o.id ≠ target.id ∧ o.area = target.area ∧ mask.holds o.type = true ∧ o.position.isSome = true ∧
    ∀ text ∈ tag, o.tag = text

instance (target : Object) (mask : TypeMask) (tag : Option String) :
    DecidablePred (Object.IsCandidate target mask tag) := fun _ ↦
  inferInstanceAs (Decidable (_ ∧ _ ∧ _ ∧ _ ∧ _))

theorem Object.isCandidate_some_iff {target o : Object} {mask : TypeMask} {text : String} :
    target.IsCandidate mask (some text) o ↔ o.tag = text ∧ target.IsCandidate mask none o := by
  constructor
  · rintro ⟨hid, harea, hmask, hplaced, htag⟩
    exact ⟨htag text rfl, hid, harea, hmask, hplaced, fun _ hnone ↦ nomatch hnone⟩
  · rintro ⟨htag, hid, harea, hmask, hplaced, -⟩
    refine ⟨hid, harea, hmask, hplaced, fun _ htext ↦ ?_⟩
    cases htext
    exact htag

namespace Container

variable {c : Container} {target : Object} {mask : TypeMask} {tag : Option String}

/-- The candidates among all objects, by ascending number. -/
def candidates (c : Container) (target : Object) (mask : TypeMask) (tag : Option String) :
    List Object :=
  c.toList.filter fun o ↦ target.IsCandidate mask tag o

/-- The nearest objects to a target are counted off from the candidates. -/
structure RanksNearest (c : Container) (target : Object) (mask : TypeMask) (tag : Option String) :
    Prop where
  /-- Nothing is near to what has no position. -/
  unplaced : target.position = none → ∀ nth, nearest? c target mask nth tag = none
  /-- The object found is the candidate that so many others come before. -/
  some_iff : ∀ place, target.position = some place → ∀ nth o,
    nearest? c target mask nth tag = some o ↔
      o ∈ c.candidates target mask tag ∧
        (c.candidates target mask tag).countP (Object.Nearer place · o) = nth
  /-- Nothing is found where the candidates are at an end. -/
  none_iff : ∀ place, target.position = some place → ∀ nth,
    nearest? c target mask nth tag = none ↔ (c.candidates target mask tag).length ≤ nth
  /-- Every candidate is found once. -/
  once : ∀ place, target.position = some place → ∀ o ∈ c.candidates target mask tag,
    ∃ nth, ∀ nth', nearest? c target mask nth' tag = some o ↔ nth' = nth
  /-- The index by tag leads to what a filter on all objects leads to. -/
  by_tag : ∀ place, target.position = some place → ∀ text ∈ tag, ∀ nth,
    nearest? c target mask nth tag =
      (sortNear place ((nearCandidates c target mask none).filter (·.tag = text)))[nth]?

/-- To give a tag is to keep the candidates that have it. -/
theorem candidates_some (c : Container) (target : Object) (mask : TypeMask) (text : String) :
    c.candidates target mask (some text) =
      (c.candidates target mask none).filter fun o ↦ o.tag = text := by
  rw [candidates, candidates, List.filter_filter]
  refine List.filter_congr fun o _ ↦ ?_
  rw [Bool.eq_iff_iff, Bool.and_eq_true, decide_eq_true_eq, decide_eq_true_eq, decide_eq_true_eq]
  exact Object.isCandidate_some_iff

namespace WellFormed

/-- Both ways of searching come to the candidates, in the same order. -/
theorem nearCandidates_eq (h : c.WellFormed) (target : Object) (mask : TypeMask)
    (tag : Option String) : nearCandidates c target mask tag = c.candidates target mask tag := by
  unfold nearCandidates
  dsimp only
  rw [(Search.drain_start h _).1, scan, List.filter_filter, candidates]
  refine List.filter_congr fun o _ ↦ ?_
  rw [Bool.eq_iff_iff]
  simp only [Bool.and_eq_true, bne_iff_ne, beq_iff_eq, decide_eq_true_eq, and_assoc,
    Object.IsCandidate]
  cases tag with
  | none => simp [SearchKey.Matches]
  | some text => simp [SearchKey.Matches]

theorem pairwise_candidates (h : c.WellFormed) :
    (c.candidates target mask tag).Pairwise (·.id < ·.id) :=
  h.pairwise_toList.filter _

theorem nearest?_eq (h : c.WellFormed) {place : Vector3} (hplace : target.position = some place)
    (nth : Nat) :
    nearest? c target mask nth tag = (sortNear place (c.candidates target mask tag))[nth]? := by
  rw [nearest?, hplace, ← h.nearCandidates_eq]

theorem nearest?_eq_some_iff (h : c.WellFormed) {place : Vector3}
    (hplace : target.position = some place) {nth : Nat} {o : Object} :
    nearest? c target mask nth tag = some o ↔
      o ∈ c.candidates target mask tag ∧
        (c.candidates target mask tag).countP (Object.Nearer place · o) = nth := by
  have hperm := sortNear_perm place (c.candidates target mask tag)
  rw [h.nearest?_eq hplace, getElem?_eq_some_iff_countP (fun _ _ ↦ Object.Nearer.asymm)
    (pairwise_sortNear place h.pairwise_candidates), hperm.mem_iff, hperm.countP_eq]

theorem ranksNearest (h : c.WellFormed) (target : Object) (mask : TypeMask) (tag : Option String) :
    c.RanksNearest target mask tag where
  unplaced hnone nth := by rw [nearest?, hnone]
  some_iff place hplace nth o := h.nearest?_eq_some_iff hplace
  none_iff place hplace nth := by
    rw [h.nearest?_eq hplace, List.getElem?_eq_none_iff, (sortNear_perm ..).length_eq]
  once place hplace o ho := by
    refine ⟨(c.candidates target mask tag).countP (Object.Nearer place · o), fun nth' ↦ ?_⟩
    rw [h.nearest?_eq_some_iff hplace]
    exact ⟨fun hcount ↦ hcount.2.symm, fun hcount ↦ ⟨ho, hcount.symm⟩⟩
  by_tag place hplace text htext nth := by
    cases htext
    rw [h.nearest?_eq hplace, h.nearCandidates_eq, candidates_some]

end WellFormed

end Container

end ScriptHost
