import ScriptHost.Command.Schedule
import ScriptHost.Proofs.Schedule.Conservation

/-!
# Taking what is due, at once or in parts

What is due is the front of the queue, and a limit cuts that front off earlier.  So it makes no
difference into how many takings it is divided: one of `a` actions and then another are one taking
of `a` more (`takeDue_takeDue`), and takings of at most `cap` actions, one after the other until one
comes back empty, are one taking without a limit (`drains_iff`).

Nor does it make a difference whether actions are called off before what is due is taken or are left
out of it afterwards (`Keyed.due_calledOff`).  Here the order of the queue comes in: what was due
behind an action that is called off is due in its place.
-/

namespace ScriptHost

theorem SortedMap.drop_drop {κ ν : Type} [Ord κ] (m : SortedMap κ ν) (i j : Nat) :
    (m.drop i).drop j = m.drop (i + j) :=
  SortedMap.ext List.drop_drop

namespace Schedule

variable {s t : Schedule} {now : UInt64} {cap : Nat}

/-! ## Schedules that requests lead to -/

/-- The schedule after requests, one after the other. -/
def after (s : Schedule) (requests : List ScheduleCommand) : Schedule :=
  requests.foldl (fun s c ↦ (c.perform (ν := Empty) s).state) s

theorem Keyed.perform (h : s.Keyed) (c : ScheduleCommand) :
    (c.perform (ν := Empty) s).state.Keyed := by
  cases c with
  | queueScript | queueDestroy => exact h.enqueued _
  | takeDue now limit => exact h.takeDue now limit
  | clearActionsFor owner => exact h.calledOff owner
  | clearActions | clear => exact h.of_subset (List.nil_subset _) rfl
  | stop | addEvent | takeEvents => exact h.of_subset (List.Subset.refl _) rfl
  | actions | nextFireTime | object | diagnostic => exact h

theorem Keyed.after (h : s.Keyed) (requests : List ScheduleCommand) :
    (s.after requests).Keyed := by
  induction requests generalizing s with
  | nil => exact h
  | cons c rest ih => exact ih (h.perform c)

/-! ## Parts of the front -/

theorem due_some (s : Schedule) (now : UInt64) (n : Nat) :
    s.due now (some n) = (s.due now none).take n := rfl

/-- What is due after a taking is what was due before it and was not taken. -/
theorem due_append_due_takeDue (s : Schedule) (now : UInt64) (limit : Option Nat) :
    s.due now limit ++ (s.takeDue now limit).2.due now none = s.due now none := by
  have hdue : ∀ a ∈ s.due now limit, decide (a.timestamp ≤ now) = true := fun a ha ↦
    decide_eq_true (timestamp_le_of_mem_due ha)
  change _ = s.actions.values.takeWhile _
  rw [← s.due_append_takeDue now limit, List.takeWhile_append_of_pos hdue]
  rfl

/-- A limit that has room for some actions and then for others has room for both. -/
theorem due_append_due (s : Schedule) (now : UInt64) (a : Nat) (limit : Option Nat) :
    s.due now (some a) ++ (s.takeDue now (some a)).2.due now limit =
      s.due now (limit.map (a + ·)) := by
  have hleft := s.due_append_due_takeDue now (some a)
  cases limit with
  | none => exact hleft
  | some b =>
    have hrest : (s.takeDue now (some a)).2.due now none = (s.due now none).drop a :=
      List.append_cancel_left (hleft.trans (List.take_append_drop a _).symm)
    rw [Option.map_some, due_some, due_some, due_some, hrest, List.take_add]

/-- Two takings, one after the other, are one. -/
theorem takeDue_takeDue (s : Schedule) (now : UInt64) (a : Nat) (limit : Option Nat) :
    let first := s.takeDue now (some a)
    let second := first.2.takeDue now limit
    (first.1 ++ second.1, second.2) = s.takeDue now (limit.map (a + ·)) := by
  intro first second
  have hfirst : first = _ := s.takeDue_eq now (some a)
  have hsecond : second = _ := first.2.takeDue_eq now limit
  have hdue : first.1 ++ second.1 = s.due now (limit.map (a + ·)) := by
    rw [← s.due_append_due now a limit, fst_takeDue, fst_takeDue]
  have hstate : second.2 = { s with actions := s.actions.drop (first.1 ++ second.1).length } := by
    rw [List.length_append, ← SortedMap.drop_drop, hsecond, hfirst]
  rw [hstate, hdue, takeDue_eq]

/-- Something is taken if there is room for it and the time of the first action has come. -/
theorem due_ne_nil_iff (s : Schedule) (now : UInt64) (limit : Option Nat) :
    s.due now limit ≠ [] ↔ limit ≠ some 0 ∧ ∃ time ∈ s.nextFireTime?, time ≤ now := by
  have hfirst : s.due now none ≠ [] ↔ ∃ time ∈ s.nextFireTime?, time ≤ now := by
    unfold due nextFireTime?
    cases s.actions.values with
    | nil => simp
    | cons a rest => by_cases ha : a.timestamp ≤ now <;> simp [ha]
  rw [← hfirst]
  cases limit with
  | none => simp
  | some n => simp [due_some]

/-! ## Takings one after the other -/

/-- `s.Drains now cap taken t` says that takings of at most `cap` actions, one after the other until
one comes back empty, give `taken` and lead from the schedule `s` to `t`. -/
inductive Drains (now : UInt64) (cap : Nat) : Schedule → List Action → Schedule → Prop where
  | done {s : Schedule} (empty : (s.takeDue now (some cap)).1 = []) :
      Drains now cap s [] (s.takeDue now (some cap)).2
  | more {s t : Schedule} {rest : List Action} (nonempty : (s.takeDue now (some cap)).1 ≠ [])
      (later : Drains now cap (s.takeDue now (some cap)).2 rest t) :
      Drains now cap s ((s.takeDue now (some cap)).1 ++ rest) t

variable {taken : List Action}

/-- What comes of all takings is what one without a limit gives. -/
theorem Drains.eq_takeDue (hcap : 0 < cap) (h : Drains now cap s taken t) :
    (taken, t) = s.takeDue now none := by
  induction h with
  | @done s empty =>
    have hnone : s.due now none = [] := by
      rw [fst_takeDue, due_some, List.take_eq_nil_iff] at empty
      exact empty.resolve_left (Nat.ne_of_gt hcap)
    rw [takeDue_eq, takeDue_eq, due_some, hnone, List.take_nil]
  | @more s t rest _ _ ih =>
    have hone := takeDue_takeDue s now cap none
    dsimp only at hone
    rwa [← ih] at hone

/-- The takings come to an end. -/
theorem exists_drains (now : UInt64) (cap : Nat) (s : Schedule) :
    ∃ taken t, Drains now cap s taken t := by
  -- What is due gets less from one taking to the next.
  induction hleft : (s.due now none).length using Nat.strongRecOn generalizing s with
  | ind left ih =>
    by_cases hempty : (s.takeDue now (some cap)).1 = []
    · exact ⟨_, _, .done hempty⟩
    · have hsplit := congrArg List.length (s.due_append_due_takeDue now (some cap))
      rw [List.length_append, hleft] at hsplit
      have hpos : 0 < (s.due now (some cap)).length := by
        rwa [List.length_pos_iff, ← fst_takeDue]
      obtain ⟨rest, t, hrest⟩ := ih _ (by omega) (s.takeDue now (some cap)).2 rfl
      exact ⟨_, t, .more hempty hrest⟩

theorem drains_iff (hcap : 0 < cap) :
    Drains now cap s taken t ↔ (taken, t) = s.takeDue now none := by
  refine ⟨fun h ↦ h.eq_takeDue hcap, fun h ↦ ?_⟩
  obtain ⟨taken', t', hdrains⟩ := exists_drains now cap s
  cases h.trans (hdrains.eq_takeDue hcap).symm
  exact hdrains

/-! ## Actions that are called off -/

theorem Keyed.due_none (h : s.Keyed) (now : UInt64) :
    s.due now none = s.actions.values.filter (·.timestamp ≤ now) := by
  rw [h.due_eq now none, Option.getD_none, Nat.min_self, List.take_length]

/-- Of what is due, a cancellation takes out what its owner can call off. -/
theorem Keyed.due_calledOff (h : s.Keyed) (now : UInt64) (owner : ObjectId) :
    (s.calledOff owner).due now none =
      (s.due now none).filter fun a ↦ !isCancelledBy owner a := by
  rw [(h.calledOff owner).due_none, h.due_none, values_calledOff, List.filter_filter,
    List.filter_filter]
  exact List.filter_congr fun _ _ ↦ Bool.and_comm _ _

/-! ## The front of the queue -/

/-- In every schedule that requests can lead to, actions wait in the order of their keys, and what
is taken at a time is the front of those whose time has come, as many of them as the limit allows;
all others wait on, and nothing else is changed.  Something is taken if the limit is not zero and
the first action is due.  Two takings with limits are one with the sum of the limits, and takings
with a limit that is not zero, repeated until one is empty, come to an end and are one without a
limit.  If an owner calls off its actions first, what is due is taken without them. -/
theorem due_taken_in_parts (object : ObjectId) (requests : List ScheduleCommand) (now : UInt64) :
    let s := (start object).after requests
    let waiting := s.actions.values
    let due := waiting.filter (·.timestamp ≤ now)
    waiting.Pairwise (fun a b ↦ a.key.Before b.key) ∧
      (∀ limit,
        (s.takeDue now limit).1 = due.take (min (limit.getD due.length) due.length) ∧
          (s.takeDue now limit).1 ++ (s.takeDue now limit).2.actions.values = waiting ∧
          (s.takeDue now limit).2 = { s with actions := (s.takeDue now limit).2.actions } ∧
          ((s.takeDue now limit).1 ≠ [] ↔
            limit ≠ some 0 ∧ ∃ time, s.nextFireTime? = some time ∧ time ≤ now)) ∧
      (∀ a b,
        let first := s.takeDue now (some a)
        let second := first.2.takeDue now (some b)
        (first.1 ++ second.1, second.2) = s.takeDue now (some (a + b))) ∧
      (∀ cap, 0 < cap → ∀ taken t, Drains now cap s taken t ↔ (taken, t) = s.takeDue now none) ∧
      ∀ owner,
        let cleared := ((clearActionsFor owner : Step Empty Schedule Nat) s).state
        (cleared.takeDue now none).1 =
          (s.takeDue now none).1.filter fun a ↦ !(a.owner == owner && a.kind.isScript) := by
  intro s waiting due
  have hs : s.Keyed := (Keyed.start object).after requests
  refine ⟨hs.pairwise_values, fun limit ↦ ?_, fun a b ↦ s.takeDue_takeDue now a (some b),
    fun cap hcap taken t ↦ drains_iff hcap, fun owner ↦ ?_⟩
  · rw [fst_takeDue]
    exact ⟨hs.due_eq now limit, s.due_append_takeDue now limit, rfl, s.due_ne_nil_iff now limit⟩
  · intro cleared
    rw [fst_takeDue, fst_takeDue]
    exact hs.due_calledOff now owner

end Schedule

end ScriptHost
