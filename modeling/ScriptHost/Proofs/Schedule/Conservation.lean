import ScriptHost.Proofs.Schedule.Pending

/-!
# No action is lost, and none fires twice

A `Ledger` follows a schedule through a run and keeps account of its actions: what was handed in,
which numbers were given out, and what left the queue, by which way.  Nothing in it looks into the
operations; an action counts as gone when its key is (`gone`).

The books balance after every step (`Ledger.Balanced.step`), so after every run each action that was
ever queued is in exactly one place (`actions_conserved`).  The weight lies on queueing: an
insertion under a key in use would lose the action that waits there, and that the number is a new
one is what `Keyed` is for.
-/

namespace ScriptHost.Schedule

/-- A change to the actions of a schedule. -/
inductive Change where
  | queue (a : Action)
  | takeDue (now : UInt64) (limit : Option Nat)
  | clearActionsFor (owner : ObjectId)
  | clearActions
  | clear

/-- The actions that wait in one schedule, and under no key of another. -/
def gone (s t : Schedule) : List Action :=
  (s.actions.entries.filter fun e ↦ !t.actions.contains e.1).map (·.2)

/-- A schedule, and what has become of the actions so far. -/
structure Ledger where
  schedule : Schedule
  /-- The actions as they were handed in. -/
  requests : List Action
  /-- The numbers that were given out for them. -/
  numbers : List Nat
  /-- The actions that were taken, each with the time of the taking. -/
  taken : List (UInt64 × Action)
  /-- The actions that were called off, each with the one for whom they were. -/
  cancelled : List (ObjectId × Action)
  /-- The actions that went when all did. -/
  dropped : List Action

namespace Ledger

def start (object : ObjectId) : Ledger := ⟨.start object, [], [], [], [], []⟩

/-- The actions as they were queued: as handed in, but under the numbers given out. -/
def queued (l : Ledger) : List Action :=
  List.zipWith (fun a n ↦ { a with seq := n }) l.requests l.numbers

/-- The actions in all places where an action can be. -/
def places (l : Ledger) : List Action :=
  l.schedule.actions.values ++ l.taken.map (·.2) ++ l.cancelled.map (·.2) ++ l.dropped

/-- Books a change that empties the queue. -/
def drop (l : Ledger) (s : Schedule) : Ledger :=
  { l with schedule := s, dropped := l.dropped ++ gone l.schedule s }

/-- Makes a change and books it. -/
def step (l : Ledger) : Change → Ledger
  | .queue a =>
    let out := (Schedule.queue a : Step Empty Schedule Nat) l.schedule
    { l with
      schedule := out.state
      requests := l.requests ++ [a]
      numbers := l.numbers ++ [out.value] }
  | .takeDue now limit =>
    let (due, s) := l.schedule.takeDue now limit
    { l with schedule := s, taken := l.taken ++ due.map fun a ↦ (now, a) }
  | .clearActionsFor owner =>
    let s := ((Schedule.clearActionsFor owner : Step Empty Schedule Nat) l.schedule).state
    { l with
      schedule := s
      cancelled := l.cancelled ++ (gone l.schedule s).map fun a ↦ (owner, a) }
  | .clearActions => l.drop l.schedule.clearActions
  | .clear => l.drop l.schedule.clear

/-- Makes changes one after the other. -/
def run (l : Ledger) (changes : List Change) : Ledger :=
  changes.foldl step l

end Ledger

/-! ## What leaves the queue -/

variable {s t : Schedule}

/-- Everything is gone from an empty queue. -/
theorem gone_of_empty (h : t.actions = ∅) : gone s t = s.actions.values := by
  unfold gone
  rw [List.filter_eq_self.2]
  · rfl
  · intro e _
    rw [h]
    rfl

/-- What is gone after a cancellation is what the owner could call off. -/
theorem gone_calledOff (s : Schedule) (owner : ObjectId) :
    gone s (s.calledOff owner) = s.actions.values.filter (isCancelledBy owner) := by
  have htest : ∀ e ∈ s.actions.entries,
      (!(s.calledOff owner).actions.contains e.1) = isCancelledBy owner e.2 := by
    intro e he
    rw [calledOff, SortedMap.contains_filter he, Bool.not_not]
  rw [gone, SortedMap.values, List.filter_map, List.filter_congr htest]
  rfl

/-- What stays after a cancellation is what the owner could not call off. -/
theorem values_calledOff (s : Schedule) (owner : ObjectId) :
    (s.calledOff owner).actions.values =
      s.actions.values.filter fun a ↦ !isCancelledBy owner a := by
  rw [SortedMap.values, SortedMap.values, List.filter_map]
  rfl

theorem mem_values_calledOff {owner : ObjectId} {a : Action} :
    a ∈ (s.calledOff owner).actions.values ↔
      a ∈ s.actions.values ∧ ¬(a.owner = owner ∧ a.kind.isScript = true) := by
  rw [values_calledOff, List.mem_filter, isCancelledBy, Bool.not_eq_true', ← Bool.not_eq_true,
    Bool.and_eq_true, beq_iff_eq]

/-- A cancellation divides the queue into what is gone and what stays. -/
theorem gone_append_calledOff (s : Schedule) (owner : ObjectId) :
    (gone s (s.calledOff owner) ++ (s.calledOff owner).actions.values).Perm s.actions.values := by
  rw [gone_calledOff, values_calledOff]
  exact List.filter_append_perm _ _

/-- A cancellation says how many actions it called off. -/
theorem value_clearActionsFor {ν : Type} (s : Schedule) (owner : ObjectId) :
    ((clearActionsFor owner : Step ν Schedule Nat) s).value =
      (gone s (s.calledOff owner)).length := by
  have hlen := (s.gone_append_calledOff owner).length_eq
  rw [List.length_append, SortedMap.values, SortedMap.values, List.length_map,
    List.length_map] at hlen
  change s.actions.entries.length - (s.calledOff owner).actions.entries.length = _
  omega

/-! ## The books -/

/-- Where a list falls into what goes and what stays, the part that goes may stand elsewhere. -/
theorem perm_of_move {α : Type} {goes stays whole : List α} (h : (goes ++ stays).Perm whole)
    (xs ys : List α) : (whole ++ xs ++ ys).Perm (stays ++ (xs ++ goes) ++ ys) := by
  calc
    List.Perm (whole ++ xs ++ ys) (goes ++ stays ++ xs ++ ys) :=
      (h.symm.append_right xs).append_right ys
    _ = goes ++ (stays ++ xs) ++ ys := by rw [List.append_assoc goes]
    List.Perm _ (stays ++ xs ++ goes ++ ys) := List.perm_append_comm.append_right ys
    _ = stays ++ (xs ++ goes) ++ ys := by rw [List.append_assoc stays]

namespace Ledger

/-- What holds of the books after every step. -/
structure Balanced (l : Ledger) : Prop where
  keyed : l.schedule.Keyed
  nextSeq_eq : l.schedule.nextSeq = l.requests.length
  numbers_eq : l.numbers = List.range l.requests.length
  perm : l.queued.Perm l.places
  due : ∀ p ∈ l.taken, p.2.timestamp ≤ p.1
  owned : ∀ p ∈ l.cancelled, p.2.owner = p.1 ∧ p.2.kind.isScript = true

variable {l : Ledger}

/-- As many numbers were given out as actions were handed in. -/
theorem Balanced.length_numbers (h : l.Balanced) : l.numbers.length = l.requests.length := by
  rw [h.numbers_eq, List.length_range]

/-- The numbers of the queued actions are those that were given out. -/
theorem Balanced.map_seq_queued (h : l.Balanced) : l.queued.map (·.seq) = l.numbers := by
  have hlen : l.numbers.length ≤ l.requests.length := Nat.le_of_eq h.length_numbers
  unfold queued
  rw [List.map_zipWith]
  change List.zipWith (Function.curry Prod.snd) l.requests l.numbers = l.numbers
  rw [← List.map_uncurry_zip_eq_zipWith]
  exact List.map_snd_zip hlen

theorem balanced_start (object : ObjectId) : (start object).Balanced where
  keyed := .start object
  nextSeq_eq := rfl
  numbers_eq := rfl
  perm := .refl _
  due := fun _ hp ↦ (List.not_mem_nil hp).elim
  owned := fun _ hp ↦ (List.not_mem_nil hp).elim

/-- Queueing books one action more, and it waits. -/
theorem Balanced.queue (h : l.Balanced) (a : Action) : (l.step (.queue a)).Balanced where
  keyed := h.keyed.enqueued a
  nextSeq_eq := by
    change l.schedule.nextSeq + 1 = (l.requests ++ [a]).length
    rw [h.nextSeq_eq, List.length_append, List.length_singleton]
  numbers_eq := by
    change l.numbers ++ [l.schedule.nextSeq] = List.range (l.requests ++ [a]).length
    rw [List.length_append, List.length_singleton, List.range_succ, h.numbers_eq, h.nextSeq_eq]
  perm := by
    let new : Action := { a with seq := l.schedule.nextSeq }
    have hqueued : (l.step (.queue a)).queued = l.queued ++ [new] :=
      List.zipWith_append h.length_numbers.symm
    have hvalues : (l.step (.queue a)).schedule.actions.values.Perm
        (new :: l.schedule.actions.values) := h.keyed.values_enqueued_perm a
    have hplaces : (l.step (.queue a)).places.Perm (new :: l.places) :=
      ((hvalues.append_right _).append_right _).append_right _
    rw [hqueued]
    calc
      List.Perm (l.queued ++ [new]) (new :: l.queued) := List.perm_append_singleton new l.queued
      List.Perm _ (new :: l.places) := h.perm.cons new
      List.Perm _ (l.step (.queue a)).places := hplaces.symm
  due := h.due
  owned := h.owned

/-- What is taken moves from the queue to the taken ones. -/
theorem Balanced.takeDue (h : l.Balanced) (now : UInt64) (limit : Option Nat) :
    (l.step (.takeDue now limit)).Balanced where
  keyed := h.keyed.takeDue now limit
  nextSeq_eq := h.nextSeq_eq
  numbers_eq := h.numbers_eq
  perm := by
    have hfront := List.Perm.of_eq (l.schedule.due_append_takeDue now limit)
    have hmove : l.places.Perm (l.step (.takeDue now limit)).places := by
      have hmoved := perm_of_move hfront (l.taken.map (·.2)) (l.cancelled.map (·.2))
      simpa [places, step, Function.comp_def] using hmoved.append_right l.dropped
    exact h.perm.trans hmove
  due := by
    intro p hp
    rcases List.mem_append.1 hp with hold | hnew
    · exact h.due p hold
    · obtain ⟨a, ha, rfl⟩ := List.mem_map.1 hnew
      have hdue : a ∈ l.schedule.due now limit := l.schedule.fst_takeDue now limit ▸ ha
      exact timestamp_le_of_mem_due hdue
  owned := h.owned

/-- What is called off moves from the queue to the cancelled ones. -/
theorem Balanced.clearActionsFor (h : l.Balanced) (owner : ObjectId) :
    (l.step (.clearActionsFor owner)).Balanced where
  keyed := h.keyed.calledOff owner
  nextSeq_eq := h.nextSeq_eq
  numbers_eq := h.numbers_eq
  perm := by
    have hsplit := l.schedule.gone_append_calledOff owner
    have hmove : l.places.Perm (l.step (.clearActionsFor owner)).places := by
      have hmoved := perm_of_move hsplit (l.taken.map (·.2) ++ l.cancelled.map (·.2)) l.dropped
      simpa [places, step, Function.comp_def] using hmoved
    exact h.perm.trans hmove
  due := h.due
  owned := by
    intro p hp
    rcases List.mem_append.1 hp with hold | hnew
    · exact h.owned p hold
    · obtain ⟨a, ha, rfl⟩ := List.mem_map.1 hnew
      rw [state_clearActionsFor, gone_calledOff] at ha
      have htest : isCancelledBy owner a = true := (List.mem_filter.1 ha).2
      rw [isCancelledBy, Bool.and_eq_true, beq_iff_eq] at htest
      exact htest

/-- When all actions go, they move from the queue to the dropped ones. -/
theorem Balanced.drop (h : l.Balanced) {s : Schedule} (hs : s.actions = ∅)
    (hseq : s.nextSeq = l.schedule.nextSeq) : (l.drop s).Balanced where
  keyed := by
    have hnil : (l.drop s).schedule.actions.entries = [] := congrArg SortedMap.entries hs
    exact h.keyed.of_subset (hnil ▸ List.nil_subset _) hseq
  nextSeq_eq := hseq.trans h.nextSeq_eq
  numbers_eq := h.numbers_eq
  perm := by
    have hsplit : (gone l.schedule s ++ s.actions.values).Perm l.schedule.actions.values := by
      rw [gone_of_empty hs, hs]
      exact .of_eq (List.append_nil _)
    have hmove : l.places.Perm (l.drop s).places := by
      have hmoved := perm_of_move hsplit
        (l.taken.map (·.2) ++ l.cancelled.map (·.2) ++ l.dropped) []
      simpa [places, Ledger.drop] using hmoved
    exact h.perm.trans hmove
  due := h.due
  owned := h.owned

/-- No change upsets the books. -/
theorem Balanced.step (h : l.Balanced) (change : Change) : (l.step change).Balanced := by
  cases change with
  | queue a => exact h.queue a
  | takeDue now limit => exact h.takeDue now limit
  | clearActionsFor owner => exact h.clearActionsFor owner
  | clearActions => exact h.drop rfl rfl
  | clear => exact h.drop rfl rfl

/-- No run upsets the books. -/
theorem Balanced.run (h : l.Balanced) (changes : List Change) : (l.run changes).Balanced := by
  induction changes generalizing l with
  | nil => exact h
  | cons change rest ih => exact ih (h.step change)

/-- No two places, and no place twice, have an action of the same number. -/
theorem Balanced.nodup_places (h : l.Balanced) : (l.places.map (·.seq)).Nodup := by
  rw [← (h.perm.map (·.seq)).nodup_iff, h.map_seq_queued, h.numbers_eq]
  exact List.nodup_range

end Ledger

/-- After every run from a new schedule, every action that was ever queued is in exactly one place:
it waits under its own key, or it was taken once, not before its time, or it resumes a script and
was called off by its owner, or it went when all actions did.  It is as it was handed in but for
its number, and the numbers ascend; none reaches the count of the actions that were handed in, so
64 bits are enough for fewer than `2 ^ 64` of them.  A cancellation says how many actions it called
off. -/
theorem actions_conserved (object : ObjectId) (changes : List Change) :
    let l := (Ledger.start object).run changes
    (∀ e ∈ l.schedule.actions.entries, e.1 = e.2.key) ∧
      l.numbers.length = l.requests.length ∧
      l.numbers.Pairwise (· < ·) ∧
      (∀ n ∈ l.numbers, n < l.requests.length) ∧
      l.queued.Perm l.places ∧
      (l.places.map (·.seq)).Nodup ∧
      (∀ p ∈ l.taken, p.2.timestamp ≤ p.1) ∧
      (∀ p ∈ l.cancelled, p.2.owner = p.1 ∧ p.2.kind.isScript = true) ∧
      ∀ owner,
        let out := (clearActionsFor owner : Step Empty Schedule Nat) l.schedule
        out.value = (gone l.schedule out.state).length := by
  intro l
  have h : l.Balanced := (Ledger.balanced_start object).run changes
  refine ⟨h.keyed.key_eq, h.length_numbers, ?_, ?_, h.perm, h.nodup_places, h.due, h.owned,
    l.schedule.value_clearActionsFor⟩
  · rw [h.numbers_eq]
    exact List.pairwise_lt_range
  · intro n hn
    rw [h.numbers_eq] at hn
    exact List.mem_range.1 hn

end ScriptHost.Schedule
