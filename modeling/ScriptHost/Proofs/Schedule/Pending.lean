import ScriptHost.Proofs.SortedMap
import ScriptHost.Schedule

/-!
# The actions that wait

The queue of a schedule is a map by time and number, and everything else here rests on two facts
about it (`Schedule.Keyed`): an action waits under its own key, and its number was given out
before.  So a new action never takes the place of another (`Keyed.get?_fresh`).

What is due is taken off one by one.  All in all this is the front of the queue, cut off by the
limit and by the first action whose time has not come (`takeDue_eq`).
-/

namespace ScriptHost

namespace ActionKey

/-- By time first, and at equal times by number. -/
def Before (a b : ActionKey) : Prop :=
  a.timestamp < b.timestamp ∨ a.timestamp = b.timestamp ∧ a.seq < b.seq

instance (a b : ActionKey) : Decidable (a.Before b) :=
  inferInstanceAs (Decidable (_ ∨ _))

/-- The order of the queue is the lexicographic one. -/
theorem compare_eq_lt_iff {a b : ActionKey} : compare a b = .lt ↔ a.Before b := by
  change (compare a.timestamp b.timestamp).then (compare a.seq b.seq) = .lt ↔ _
  rw [Ordering.then_eq_lt, Std.compare_eq_lt, Nat.compare_eq_lt, Std.compare_eq_iff_eq]
  rfl

end ActionKey

namespace Schedule

variable {ν : Type} {s t : Schedule}

/-! ## Changes to the queue -/

/-- The schedule with an action in its queue, under the next number. -/
def enqueued (s : Schedule) (a : Action) : Schedule :=
  { s with
    actions := s.actions.insert ⟨a.timestamp, s.nextSeq⟩ { a with seq := s.nextSeq }
    nextSeq := s.nextSeq + 1 }

/-- The schedule without the actions that an owner can call off. -/
def calledOff (s : Schedule) (owner : ObjectId) : Schedule :=
  { s with actions := s.actions.filter fun _ a ↦ !isCancelledBy owner a }

@[simp] theorem value_queue (a : Action) (s : Schedule) :
    ((queue a : Step ν Schedule Nat) s).value = s.nextSeq := rfl

@[simp] theorem state_queue (a : Action) (s : Schedule) :
    ((queue a : Step ν Schedule Nat) s).state = s.enqueued a := rfl

@[simp] theorem state_clearActionsFor (owner : ObjectId) (s : Schedule) :
    ((clearActionsFor owner : Step ν Schedule Nat) s).state = s.calledOff owner := rfl

/-! ## Taking one after the other -/

/-- The actions that are due, in firing order, at most `limit` of them. -/
def due (s : Schedule) (now : UInt64) (limit : Option Nat) : List Action :=
  let due := s.actions.values.takeWhile (·.timestamp ≤ now)
  match limit with
  | none => due
  | some n => due.take n

/-- Whatever was taken before, the loop takes the front up to the first action that is not due, as
far as there is room for it. -/
theorem popDue_eq (now : UInt64) (limit : Option Nat) (taken : List Action)
    (entries : List (ActionKey × Action)) :
    let due := (entries.map (·.2)).takeWhile (·.timestamp ≤ now)
    let room := limit.elim due.length (· - taken.length)
    popDue now limit taken entries =
      (taken ++ due.take room, entries.drop (due.take room).length) := by
  induction entries generalizing taken with
  | nil => simp [popDue]
  | cons e rest ih =>
    obtain ⟨key, a⟩ := e
    intro due room
    unfold popDue
    split
    · rename_i hfull
      obtain ⟨n, rfl, hn⟩ := (Option.any_eq_true _ _).1 hfull
      have hroom : room = 0 := Nat.sub_eq_zero_of_le (of_decide_eq_true hn)
      simp [hroom]
    · rename_i hfree
      split
      · rename_i hlate
        have hdue : due = [] := List.takeWhile_cons_of_neg (by simpa using hlate)
        simp [hdue]
      · rename_i htime
        let due' := (rest.map (·.2)).takeWhile (·.timestamp ≤ now)
        have hdue : due = a :: due' := List.takeWhile_cons_of_pos (by simpa using htime)
        have hroom : room = limit.elim due'.length (· - (taken ++ [a]).length) + 1 := by
          cases limit with
          | none => exact congrArg List.length hdue
          | some n =>
            have hn : taken.length < n := by simpa using hfree
            rw [List.length_append, List.length_singleton]
            change n - taken.length = n - (taken.length + 1) + 1
            omega
        rw [ih (taken ++ [a]), hdue, hroom, List.append_assoc, List.take_succ_cons]
        rfl

/-- What is taken is what is due. -/
theorem takeDue_eq (s : Schedule) (now : UInt64) (limit : Option Nat) :
    s.takeDue now limit =
      (s.due now limit, { s with actions := s.actions.drop (s.due now limit).length }) := by
  let front := (s.actions.entries.map (·.2)).takeWhile (·.timestamp ≤ now)
  have hdue : front.take (limit.elim front.length (· - ([] : List Action).length)) =
      s.due now limit := by
    cases limit with
    | none => exact List.take_length
    | some n => rfl
  have hpopped : popDue now limit [] s.actions.entries =
      (s.due now limit, s.actions.entries.drop (s.due now limit).length) := by
    rw [popDue_eq, hdue, List.nil_append]
  obtain ⟨htaken, hleft⟩ := Prod.ext_iff.1 hpopped
  exact Prod.ext htaken (Schedule.ext rfl (SortedMap.ext hleft) rfl rfl rfl)

/-- To take actions leaves the others in their order. -/
theorem entries_takeDue_sublist (s : Schedule) (now : UInt64) (limit : Option Nat) :
    (s.takeDue now limit).2.actions.entries.Sublist s.actions.entries :=
  (snd_popDue_suffix ..).sublist

@[simp] theorem fst_takeDue (s : Schedule) (now : UInt64) (limit : Option Nat) :
    (s.takeDue now limit).1 = s.due now limit := by
  rw [takeDue_eq]

theorem snd_takeDue (s : Schedule) (now : UInt64) (limit : Option Nat) :
    (s.takeDue now limit).2 = { s with actions := s.actions.drop (s.due now limit).length } := by
  rw [takeDue_eq]

/-! ## Keys -/

/-- Every action waits under its own key, and its number was given out before. -/
structure Keyed (s : Schedule) : Prop where
  key_eq : ∀ e ∈ s.actions.entries, e.1 = e.2.key
  seq_lt : ∀ e ∈ s.actions.entries, e.2.seq < s.nextSeq

namespace Keyed

theorem start (object : ObjectId) : (Schedule.start object).Keyed :=
  ⟨fun _ he ↦ (List.not_mem_nil he).elim, fun _ he ↦ (List.not_mem_nil he).elim⟩

/-- Where actions only leave, the rest is as it was. -/
theorem of_subset (h : s.Keyed) (hsub : t.actions.entries ⊆ s.actions.entries)
    (hseq : t.nextSeq = s.nextSeq) : t.Keyed :=
  ⟨fun e he ↦ h.key_eq e (hsub he), fun e he ↦ hseq ▸ h.seq_lt e (hsub he)⟩

theorem lt_nextSeq (h : s.Keyed) {a : Action} (ha : a ∈ s.actions.values) : a.seq < s.nextSeq := by
  obtain ⟨e, he, rfl⟩ := List.mem_map.1 ha
  exact h.seq_lt e he

/-- The number that is given out next is in no key yet. -/
theorem get?_fresh (h : s.Keyed) (timestamp : UInt64) :
    s.actions.get? ⟨timestamp, s.nextSeq⟩ = none := by
  rw [SortedMap.get?_eq_none_iff]
  intro e he heq
  have hkey : e.2.key = ⟨timestamp, s.nextSeq⟩ := (h.key_eq e he).symm.trans heq
  have hseq : e.2.seq = s.nextSeq := congrArg ActionKey.seq hkey
  exact Nat.ne_of_lt (h.seq_lt e he) hseq

theorem enqueued (h : s.Keyed) (a : Action) : (s.enqueued a).Keyed := by
  constructor
  · intro e he
    rcases SortedMap.mem_of_mem_insert he with rfl | hold
    · rfl
    · exact h.key_eq e hold
  · intro e he
    rcases SortedMap.mem_of_mem_insert he with rfl | hold
    · exact Nat.lt_succ_self s.nextSeq
    · exact Nat.lt_succ_of_lt (h.seq_lt e hold)

/-- A new action takes nobody's place. -/
theorem values_enqueued_perm (h : s.Keyed) (a : Action) :
    (s.enqueued a).actions.values.Perm ({ a with seq := s.nextSeq } :: s.actions.values) := by
  let new : Action := { a with seq := s.nextSeq }
  have hfresh : s.actions.get? new.key = none := h.get?_fresh a.timestamp
  exact (SortedMap.insert_perm new hfresh).map Prod.snd

theorem takeDue (h : s.Keyed) (now : UInt64) (limit : Option Nat) :
    (s.takeDue now limit).2.Keyed :=
  h.of_subset (s.entries_takeDue_sublist now limit).subset rfl

theorem calledOff (h : s.Keyed) (owner : ObjectId) : (s.calledOff owner).Keyed :=
  h.of_subset List.filter_sublist.subset rfl

end Keyed

/-! ## What is due -/

theorem due_prefix (s : Schedule) (now : UInt64) (limit : Option Nat) :
    s.due now limit <+: s.actions.values := by
  cases limit with
  | none => exact List.takeWhile_prefix _
  | some n => exact (List.take_prefix n _).trans (List.takeWhile_prefix _)

/-- What is taken off the queue is its front. -/
theorem due_append_takeDue (s : Schedule) (now : UInt64) (limit : Option Nat) :
    s.due now limit ++ (s.takeDue now limit).2.actions.values = s.actions.values := by
  obtain ⟨rest, hrest⟩ := s.due_prefix now limit
  have hdrop : (s.takeDue now limit).2.actions.values = rest := by
    rw [snd_takeDue]
    change (s.actions.entries.drop (s.due now limit).length).map _ = rest
    rw [List.map_drop]
    change s.actions.values.drop _ = rest
    rw [← hrest, List.drop_left]
  rw [hdrop, hrest]

/-- The keys of the actions that wait are the keys of the queue. -/
theorem Keyed.map_key_values (h : s.Keyed) : s.actions.values.map Action.key = s.actions.keys := by
  unfold SortedMap.values SortedMap.keys
  rw [List.map_map]
  exact List.map_congr_left fun e he ↦ (h.key_eq e he).symm

/-- Actions wait in the order of their keys. -/
theorem Keyed.pairwise_values (h : s.Keyed) :
    s.actions.values.Pairwise fun a b ↦ a.key.Before b.key := by
  have hkeys := s.actions.pairwise_keys.imp ActionKey.compare_eq_lt_iff.1
  rw [← h.map_key_values] at hkeys
  exact List.pairwise_map.1 hkeys

/-- Where a test passes only up to some place, what passes is the front. -/
theorem takeWhile_eq_filter {α : Type} {p : α → Bool} {l : List α}
    (h : l.Pairwise fun a b ↦ p b = true → p a = true) : l.takeWhile p = l.filter p := by
  induction l with
  | nil => rfl
  | cons a rest ih =>
    obtain ⟨hfirst, hrest⟩ := List.pairwise_cons.1 h
    cases hp : p a with
    | true => rw [List.takeWhile_cons_of_pos hp, List.filter_cons_of_pos hp, ih hrest]
    | false =>
      have hnone : rest.filter p = [] := by
        rw [List.filter_eq_nil_iff]
        intro b hb hpb
        rw [hfirst b hb hpb] at hp
        cases hp
      rw [List.takeWhile_cons_of_neg (by simp [hp]), List.filter_cons_of_neg (by simp [hp]), hnone]

/-- What is due is all that waits and whose time has come, as much of it as the limit allows. -/
theorem Keyed.due_eq (h : s.Keyed) (now : UInt64) (limit : Option Nat) :
    let due := s.actions.values.filter (·.timestamp ≤ now)
    s.due now limit = due.take (min (limit.getD due.length) due.length) := by
  intro due
  have hfront : s.actions.values.takeWhile (·.timestamp ≤ now) = due := by
    refine takeWhile_eq_filter (h.pairwise_values.imp fun {a b} hbefore hb ↦ ?_)
    rw [decide_eq_true_eq] at hb ⊢
    rcases hbefore with hlt | ⟨heq, -⟩
    · exact UInt64.le_trans (UInt64.le_of_lt hlt) hb
    · exact UInt64.le_trans (UInt64.le_of_eq heq) hb
  cases limit with
  | none =>
    change s.actions.values.takeWhile _ = _
    rw [hfront, Option.getD_none, Nat.min_self, List.take_length]
  | some n =>
    change (s.actions.values.takeWhile _).take n = _
    rw [hfront, Option.getD_some, List.take_eq_take_iff, Nat.min_assoc, Nat.min_self]

theorem mem_keys_enqueued {a : Action} {k : ActionKey} (h : k ∈ (s.enqueued a).actions.keys) :
    k = ⟨a.timestamp, s.nextSeq⟩ ∨ k ∈ s.actions.keys := by
  obtain ⟨e, he, rfl⟩ := List.mem_map.1 h
  rcases SortedMap.mem_of_mem_insert he with rfl | hold
  · exact .inl rfl
  · exact .inr (List.mem_map.2 ⟨e, hold, rfl⟩)

theorem timestamp_le_of_mem_due {now : UInt64} {limit : Option Nat} {a : Action}
    (h : a ∈ s.due now limit) : a.timestamp ≤ now := by
  have hdue : a ∈ s.actions.values.takeWhile (·.timestamp ≤ now) := by
    cases limit with
    | none => exact h
    | some n => exact List.mem_of_mem_take h
  exact of_decide_eq_true (List.all_eq_true.1 List.all_takeWhile a hdue)

end Schedule

end ScriptHost
