import ScriptHost.Proofs.Engine.Course
import ScriptHost.Proofs.Schedule.Conservation

/-!
# What requests do to the queue

A request that starts no script puts one action into the queue, or takes some out, or leaves the
queue as it is (`Command.requeues`).  An action is put in with a time that is not before now, unless
the request gives the time itself (`Command.IsTimely`).  Actions are taken out only by requests that
are said to do so (`Command.Clears`).
-/

namespace ScriptHost

/-! ## Putting into the queue -/

/-- The time after a delay is the sum, held within 64 bits. -/
theorem Clock.toNat_after (c : Clock) (delay : UInt64) :
    (c.after delay).toNat = min (c.now.toNat + delay.toNat) (UInt64.size - 1) := by
  unfold Clock.after
  split
  · rename_i hfits
    rw [UInt64.toNat_add, Nat.mod_eq_of_lt hfits, Nat.min_eq_left (Nat.le_sub_one_of_lt hfits)]
  · rename_i hlate
    have hlast : UInt64.size - 1 < UInt64.size := by decide
    rw [UInt64.toNat_ofNat_of_lt' hlast, Nat.min_eq_right (by omega)]

/-- The time after a delay is never before now. -/
theorem Clock.le_after (c : Clock) (delay : UInt64) : c.now ≤ c.after delay := by
  rw [UInt64.le_iff_toNat_le, toNat_after]
  exact Nat.le_min.2 ⟨Nat.le_add_right _ _, Nat.le_sub_one_of_lt c.now.toNat_lt_size⟩

/-- Whether a request leaves it to the engine when actions are due: it does not turn the clock
back, and does not queue an action by its time. -/
def Command.IsTimely (w : World) : Command → Prop
  | setClock now => w.clock.now ≤ now
  | advanceClock delta => w.clock.now ≤ (w.clock.advance delta).now
  | schedule (.queueScript ..) => False
  | schedule (.queueDestroy ..) => False
  | _ => True

/-! ## Taking off the queue -/

/-- Whether an action of a number waits. -/
def Schedule.Waits (s : Schedule) (n : Nat) : Prop :=
  ∃ a ∈ s.actions.values, a.seq = n

/-- Whether an action of a number waits that an owner can call off. -/
def Schedule.WaitsFor (s : Schedule) (owner : ObjectId) (n : Nat) : Prop :=
  ∃ a ∈ s.actions.values, a.seq = n ∧ a.owner = owner ∧ a.kind.isScript = true

/-- Whether a request takes the action of a number off the queue where it is made: it calls off the
actions of their owner, or all of them, or takes out by hand what is due. -/
def Command.Clears (n : Nat) (w : World) : Command → Prop
  | schedule (.clearActionsFor owner) => w.schedule.WaitsFor owner n
  | call function args site =>
    (∃ f, w.functions.named? function = some f ∧ f.native = some .clearAllActions ∧
        f.Accepts args) ∧
      w.schedule.WaitsFor site.caller n
  | schedule .clearActions | schedule .clear | shutdown => w.schedule.Waits n
  | schedule (.takeDue now limit) => ∃ a ∈ w.schedule.due now limit, a.seq = n
  | _ => False

namespace Schedule

variable {s : Schedule} {n : Nat}

/-- What does not wait after a cancellation did not, or was called off. -/
theorem waits_calledOff (h : s.Waits n) (owner : ObjectId) :
    (s.calledOff owner).Waits n ∨ s.WaitsFor owner n := by
  obtain ⟨a, ha, rfl⟩ := h
  by_cases howned : a.owner = owner ∧ a.kind.isScript = true
  · exact .inr ⟨a, ha, rfl, howned⟩
  · exact .inl ⟨a, mem_values_calledOff.2 ⟨ha, howned⟩, rfl⟩

/-- What is due is taken, and all else waits on. -/
theorem waits_takeDue (h : s.Waits n) (now : UInt64) (limit : Option Nat) :
    (s.takeDue now limit).2.Waits n ∨ ∃ a ∈ s.due now limit, a.seq = n := by
  obtain ⟨a, ha, rfl⟩ := h
  rw [← s.due_append_takeDue now limit] at ha
  rcases List.mem_append.1 ha with hdue | hrest
  · exact .inr ⟨a, hdue, rfl⟩
  · exact .inl ⟨a, hrest, rfl⟩

end Schedule

/-- Only one function calls actions off. -/
theorem Builtin.eq_clearAllActions {b : Builtin} (h : b.scope = .cancellation) :
    b = clearAllActions := by
  cases b with
  | clearAllActions => rfl
  | _ => cases h

/-! ## One request -/

/-- What a request that starts no script makes of the queue. -/
inductive World.Requeues (w : World) (c : Command) (v : World) : Prop where
  | puts (a : Action) (schedule_eq : v.schedule = w.schedule.enqueued a)
      (clock_eq : v.clock = w.clock) (timely : c.IsTimely w → w.clock.now ≤ a.timestamp)
  | takes (left : v.schedule.actions.entries.Sublist w.schedule.actions.entries)
      (nextSeq_eq : v.schedule.nextSeq = w.schedule.nextSeq)
      (timely : c.IsTimely w → w.clock.now ≤ v.clock.now)
      (waits : ∀ n, w.schedule.Waits n → v.schedule.Waits n ∨ c.Clears n w)

namespace World.Requeues

variable {w v : World} {c : Command}

theorem of_eq (hactions : v.schedule.actions = w.schedule.actions)
    (hseq : v.schedule.nextSeq = w.schedule.nextSeq)
    (hclock : c.IsTimely w → w.clock.now ≤ v.clock.now) : w.Requeues c v := by
  have hentries : v.schedule.actions.entries = w.schedule.actions.entries := by rw [hactions]
  refine .takes (hentries ▸ .refl _) hseq hclock fun n ⟨a, ha, hn⟩ ↦ .inl ⟨a, ?_, hn⟩
  rw [hactions]
  exact ha

/-- Actions that a script orders are due after some time from now. -/
theorem of_delay {a : Action} {delay : UInt64} (hschedule : v.schedule = w.schedule.enqueued a)
    (hclock : v.clock = w.clock) (ha : a.timestamp = w.clock.after delay) : w.Requeues c v :=
  .puts a hschedule hclock fun _ ↦ ha ▸ w.clock.le_after delay

theorem onSchedule (w : World) (c : ScheduleCommand) :
    w.Requeues (.schedule c) (World.onSchedule c.perform w : Outcome Note World c.Reply).state := by
  cases c with
  | queueScript | queueDestroy => exact .puts _ rfl rfl False.elim
  | takeDue now limit =>
    exact .takes (w.schedule.entries_takeDue_sublist now limit) rfl (fun _ ↦ UInt64.le_rfl)
      fun n h ↦ w.schedule.waits_takeDue h now limit
  | clearActionsFor owner =>
    exact .takes List.filter_sublist rfl (fun _ ↦ UInt64.le_rfl)
      fun n h ↦ w.schedule.waits_calledOff h owner
  | clearActions | clear =>
    exact .takes (List.nil_sublist _) rfl (fun _ ↦ UInt64.le_rfl) fun n h ↦ .inr h
  | stop | actions | nextFireTime | addEvent | takeEvents | object | diagnostic =>
    exact .of_eq rfl rfl fun _ ↦ UInt64.le_rfl

/-- Of the calls that start no script, only those of one function take anything out. -/
theorem call {it : Interpreter} {launch : Launcher} {function : FunctionName} {args : List Value}
    {site : CallSite} (h : w.callStart? it function args site = none) :
    w.Requeues (.call function args site) (World.call it launch function args site w).state := by
  obtain ⟨-, hsame | ⟨f, b, hnamed, hnative, haccepts, hleaves⟩⟩ := World.leaves_call launch h
  · rw [hsame]
    exact .of_eq rfl rfl fun _ ↦ UInt64.le_rfl
  · generalize (World.call it launch function args site w).state = v at hleaves
    generalize hscope : b.scope = scope at hleaves
    cases hleaves with
    | cancel =>
      have hb : b = .clearAllActions := Builtin.eq_clearAllActions hscope
      refine .takes List.filter_sublist rfl (fun _ ↦ UInt64.le_rfl) fun n hn ↦ ?_
      exact (w.schedule.waits_calledOff hn site.caller).imp_right
        (⟨⟨f, hnamed, hb ▸ hnative, haccepts⟩, ·⟩)
    | defer | doom => exact .of_delay rfl rfl rfl
    | same | draw | setLocal | deleteLocal | remove => exact .of_eq rfl rfl fun _ ↦ UInt64.le_rfl

end World.Requeues

/-- A request that starts no script puts an action into the queue that is not due before now, or
takes out what it is said to. -/
theorem Command.requeues {it : Interpreter} {launch : Launcher} {w : World} {c : Command}
    (hc : c ≠ .pump) (h : c.start? it w = none) : w.Requeues c (c.perform it launch w).state := by
  cases c with
  | pump => exact absurd rfl hc
  | schedule c => exact .onSchedule w c
  | call function args site => exact .call h
  | runScript | executeScript =>
    have hstate := congrArg Outcome.state (it.runScript_of_none (w := w) launch h)
    change w.Requeues _ (it.runScript launch _ _ _ _ none w).state
    rw [hstate]
    exact .of_eq rfl rfl fun _ ↦ UInt64.le_rfl
  | delayScript | destroyDelayed => exact .of_delay rfl rfl rfl
  | shutdown =>
    exact .takes (List.nil_sublist _) rfl (fun _ ↦ UInt64.le_rfl) fun n h ↦ .inr h
  | setClock | advanceClock => exact .of_eq rfl rfl id
  | objects | moveObject | random | loadScript | pushEvent | functions | config | diagnostic
  | frameFree => exact .of_eq rfl rfl fun _ ↦ UInt64.le_rfl

end ScriptHost
