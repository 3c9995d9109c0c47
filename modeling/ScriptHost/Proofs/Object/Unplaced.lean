import ScriptHost.Proofs.Object.Nearness
import ScriptHost.Proofs.Single.Arithmetic

/-!
# Where unplaced objects stand

An object without a position counts as infinitely far, and an infinite distance is not the last one
in the total order of floating numbers.  A distance never has a minus
(`Object.isNegative_distanceTo`), so the order of nearness has three parts: finite distances, then
the infinite one, and then what is not a number.  The sort keeps the order of what is equally far
(`filter_sortNear`).  So an unplaced object comes after all that are finitely far, among those
infinitely far where it was given, and before those whose distance is not a number
(`sorted_around_unplaced`).
-/

namespace ScriptHost

/-! ## Distances -/

namespace Single

variable {x : Single}

/-- Two coordinates between which there is no distance: one is not a number, or both are the same
infinity. -/
def Unmeasured (x y : Single) : Prop :=
  x.isNaN = true ∨ y.isNaN = true ∨
    x.isInfinite = true ∧ y.isInfinite = true ∧ x.isNegative = y.isNegative

theorem rank_lt_infinity (h : x.isFinite = true) : x.rank < infinity.rank := by
  have hfinite : x.magnitude < 0x7f800000 := of_decide_eq_true h
  have hrank : infinity.rank = 0x7f800000 := by decide
  rw [hrank, rank]
  split <;> omega

theorem infinity_lt_rank (h : x.isNaN = true) (hsign : x.isNegative = false) :
    infinity.rank < x.rank := by
  have hnan : 0x7f800000 < x.magnitude := of_decide_eq_true h
  have hrank : infinity.rank = 0x7f800000 := by decide
  rw [hrank, rank, hsign, if_neg Bool.false_ne_true]
  omega

end Single

theorem Vector3.isNegative_manhattan (a b : Vector3) : (a.manhattan b).isNegative = false :=
  Single.isNegative_add (Single.isNegative_add (Single.isNegative_abs _) (Single.isNegative_abs _))
    (Single.isNegative_abs _)

/-- There is no distance between two points if there is none along one of the axes. -/
theorem Vector3.isNaN_manhattan_iff {a b : Vector3} :
    (a.manhattan b).isNaN = true ↔
      a.x.Unmeasured b.x ∨ a.y.Unmeasured b.y ∨ a.z.Unmeasured b.z := by
  have hxy : ((a.x.sub b.x).abs.add (a.y.sub b.y).abs).isNegative = false :=
    Single.isNegative_add (Single.isNegative_abs _) (Single.isNegative_abs _)
  simp [manhattan, Single.isNaN_add_iff, Single.isNaN_sub_iff, hxy, Single.Unmeasured, or_assoc]

namespace Object

variable {o : Object} {place : Vector3}

theorem distanceTo_of_unplaced (h : o.position = none) : o.distanceTo place = .infinity := by
  rw [distanceTo, h]

theorem isNegative_distanceTo (o : Object) (place : Vector3) :
    (o.distanceTo place).isNegative = false := by
  unfold distanceTo
  split
  · exact Vector3.isNegative_manhattan _ _
  · rfl

end Object

/-! ## The sort -/

theorem pairwise_rank_sortNear (place : Vector3) (objects : List Object) :
    (sortNear place objects).Pairwise fun a b ↦
      (a.distanceTo place).rank ≤ (b.distanceTo place).rank :=
  (List.pairwise_mergeSort (compareNear_trans place) (compareNear_total place) objects).imp
    compareNear_ne_gt_iff.1

/-- Objects that are equally far keep their order. -/
theorem filter_sortNear {place : Vector3} {p : Object → Bool} {d : Single}
    (h : ∀ o, p o = true → o.distanceTo place = d) (objects : List Object) :
    (sortNear place objects).filter p = objects.filter p := by
  have htied : (objects.filter p).Pairwise fun a b ↦ (compareNear place a b != .gt) = true := by
    refine List.pairwise_of_forall_mem_list fun a ha b hb ↦ compareNear_ne_gt_iff.2 ?_
    rw [h a (List.mem_filter.1 ha).2, h b (List.mem_filter.1 hb).2]
  have hsub : (objects.filter p).Sublist (sortNear place objects) :=
    List.sublist_mergeSort (compareNear_trans place) (compareNear_total place) htied
      List.filter_sublist
  have hfiltered := hsub.filter p
  simp only [List.filter_filter, Bool.and_self] at hfiltered
  refine (hfiltered.eq_of_length ?_).symm
  exact ((sortNear_perm place objects).filter p).length_eq.symm

/-- How objects are sorted by their nearness to a place, those without a position among them.

- None is lost, and objects at the same distance keep their order.  So do those without a position.
- An object that is finitely far comes before every one without a position.
- An object that is infinitely far is as far as one without a position, and they keep their order.
- An object whose distance is not a number comes after every one without a position.  These are the
  objects with a coordinate that is not a number or is the same infinity as that of the place. -/
theorem sorted_around_unplaced (place : Vector3) (objects : List Object) :
    let sorted := sortNear place objects
    sorted.Perm objects ∧
      (∀ d, (sorted.filter fun o ↦ o.distanceTo place = d) =
        objects.filter fun o ↦ o.distanceTo place = d) ∧
      (sorted.filter fun o ↦ o.position = none) = (objects.filter fun o ↦ o.position = none) ∧
      sorted.Pairwise (fun a b ↦ a.position = none → (b.distanceTo place).isFinite = false) ∧
      (sorted.filter fun o ↦ (o.distanceTo place).isInfinite) =
        (objects.filter fun o ↦ (o.distanceTo place).isInfinite) ∧
      sorted.Pairwise (fun a b ↦ (a.distanceTo place).isNaN = true → b.position ≠ none) ∧
      ∀ (o : Object) p, o.position = some p → ((o.distanceTo place).isNaN = true ↔
        p.x.Unmeasured place.x ∨ p.y.Unmeasured place.y ∨ p.z.Unmeasured place.z) := by
  intro sorted
  refine ⟨sortNear_perm place objects, fun d ↦ ?_, ?_, ?_, ?_, ?_, fun o p hp ↦ ?_⟩
  · exact filter_sortNear (fun o ho ↦ of_decide_eq_true ho) objects
  · exact filter_sortNear (fun o ho ↦ Object.distanceTo_of_unplaced (of_decide_eq_true ho)) objects
  · refine (pairwise_rank_sortNear place objects).imp fun {a b} hle ha ↦ ?_
    rw [Object.distanceTo_of_unplaced ha] at hle
    refine Bool.eq_false_iff.2 fun hfinite ↦ ?_
    exact absurd (Single.rank_lt_infinity hfinite) (not_lt.2 hle)
  · refine filter_sortNear (d := .infinity) (fun o ho ↦ ?_) objects
    exact Single.eq_infinity ho (o.isNegative_distanceTo place)
  · refine (pairwise_rank_sortNear place objects).imp fun {a b} hle ha hb ↦ ?_
    rw [Object.distanceTo_of_unplaced hb] at hle
    exact absurd (Single.infinity_lt_rank ha (a.isNegative_distanceTo place)) (not_lt.2 hle)
  · rw [Object.distanceTo, hp]
    exact Vector3.isNaN_manhattan_iff

/-- An unplaced object comes before one that is placed, but so far away that the difference is
infinite, and before one that is placed at what is not a number. -/
theorem unplaced_before_placed :
    let place : Vector3 := ⟨⟨0xff61b1e6⟩, .zero, .zero⟩
    let unplaced := Object.fresh .item "unplaced"
    let far := (Object.fresh .item "far").setPosition ⟨⟨0x7f61b1e6⟩, .zero, .zero⟩
    let nowhere := (Object.fresh .item "nowhere").setPosition ⟨⟨0x7fc00000⟩, .zero, .zero⟩
    unplaced.position = none ∧ far.position.isSome = true ∧ nowhere.position.isSome = true ∧
      (sortNear place [unplaced, far]).map (·.tag) = ["unplaced", "far"] ∧
      (sortNear place [nowhere, unplaced]).map (·.tag) = ["unplaced", "nowhere"] := by
  intro place unplaced far nowhere
  have hpair : ∀ a b, sortNear place [a, b] =
      if compareNear place a b != .gt then [a, b] else [b, a] := by
    intro a b
    simp [sortNear, List.mergeSort, List.merge]
  have hfar : compareNear place unplaced far = .eq := by decide +kernel
  have hnowhere : compareNear place nowhere unplaced = .gt := by decide +kernel
  rw [hpair, hpair, hfar, hnowhere]
  exact ⟨rfl, rfl, rfl, rfl, rfl⟩

end ScriptHost
