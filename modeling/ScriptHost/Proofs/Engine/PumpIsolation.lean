import ScriptHost.Proofs.Engine.Change
import ScriptHost.Proofs.Engine.FiringOrder

/-!
# A pump and the work that it makes

While a pump fires actions, scripts may queue others, call some off, and start more scripts.  What
the pump fires is settled before any of this: it is the front of the queue as it stands once the
events are handed on.  What is queued meanwhile gets numbers from the next one on, so it is not
among what fires.

It is not lost either.  `World.Carries` says that an action of such a number waits for as long as
nobody takes it off the queue, and `Command.Clears` which requests do that.  No step of a course
breaks this (`Interpreter.Traces.carries`).  `World.pump_isolated` puts both sides together.
-/

namespace ScriptHost

namespace Schedule

variable {s : Schedule} {n : Nat}

/-- A new action waits, and so do all that waited before. -/
theorem Keyed.waits_enqueued (h : s.Keyed) (a : Action) :
    (s.enqueued a).Waits n ↔ n = s.nextSeq ∨ s.Waits n := by
  have hperm := h.values_enqueued_perm a
  constructor
  · rintro ⟨b, hb, rfl⟩
    rcases List.mem_cons.1 (hperm.mem_iff.1 hb) with rfl | hold
    · exact .inl rfl
    · exact .inr ⟨b, hold, rfl⟩
  · rintro (rfl | ⟨b, hb, rfl⟩)
    · exact ⟨_, hperm.mem_iff.2 List.mem_cons_self, rfl⟩
    · exact ⟨b, hperm.mem_iff.2 (List.mem_cons_of_mem _ hb), rfl⟩

end Schedule

/-! ## What waits on -/

/-- From one world to another, numbers are only counted up, and every action that waits or is given
a number meanwhile waits on, unless it is among those taken off. -/
structure World.Carries (w v : World) (cleared : Nat → Prop) : Prop where
  keyed : v.schedule.Keyed
  nextSeq_le : w.schedule.nextSeq ≤ v.schedule.nextSeq
  waits : ∀ n < v.schedule.nextSeq, w.schedule.nextSeq ≤ n ∨ w.schedule.Waits n →
    v.schedule.Waits n ∨ cleared n

namespace World.Carries

variable {w v u : World} {cleared cleared' : Nat → Prop}

/-- Where actions only leave, those wait on that are not taken off. -/
theorem of_leaving (hkeyed : v.schedule.Keyed) (hseq : v.schedule.nextSeq = w.schedule.nextSeq)
    (h : ∀ n, w.schedule.Waits n → v.schedule.Waits n ∨ cleared n) : w.Carries v cleared where
  keyed := hkeyed
  nextSeq_le := Nat.le_of_eq hseq.symm
  waits n hn hwaits := by
    rcases hwaits with hnew | hold
    · exact absurd (hseq ▸ hn) (Nat.not_lt_of_le hnew)
    · exact h n hold

/-- Where the actions stay as they are, they all wait on. -/
theorem of_eq (hw : w.schedule.Keyed) (hactions : v.schedule.actions = w.schedule.actions)
    (hseq : v.schedule.nextSeq = w.schedule.nextSeq) : w.Carries v cleared := by
  refine .of_leaving (hw.of_subset ?_ hseq) hseq fun n ⟨a, ha, hn⟩ ↦ .inl ⟨a, ?_, hn⟩
  · rw [hactions]
    exact List.Subset.refl _
  · rw [hactions]
    exact ha

theorem trans (h : w.Carries v cleared) (h' : v.Carries u cleared') :
    w.Carries u fun n ↦ cleared n ∨ cleared' n where
  keyed := h'.keyed
  nextSeq_le := Nat.le_trans h.nextSeq_le h'.nextSeq_le
  waits n hn hwaits := by
    by_cases hold : n < v.schedule.nextSeq
    · rcases h.waits n hold hwaits with hv | hcleared
      · exact (h'.waits n hn (.inr hv)).imp_right .inr
      · exact .inr (.inl hcleared)
    · exact (h'.waits n hn (.inl (Nat.le_of_not_lt hold))).imp_right .inr

theorem mono (h : w.Carries v cleared) (hsub : ∀ n, cleared n → cleared' n) :
    w.Carries v cleared' :=
  ⟨h.keyed, h.nextSeq_le, fun n hn hwaits ↦ (h.waits n hn hwaits).imp_right (hsub n)⟩

theorem enqueued (hw : w.schedule.Keyed) {a : Action}
    (hschedule : v.schedule = w.schedule.enqueued a) : w.Carries v cleared where
  keyed := hschedule ▸ hw.enqueued a
  nextSeq_le := hschedule ▸ Nat.le_succ _
  waits n hn hwaits := by
    rw [hschedule] at hn ⊢
    refine .inl ((hw.waits_enqueued a).2 (hwaits.imp_left fun hnew ↦ ?_))
    exact Nat.le_antisymm (Nat.le_of_lt_succ hn) hnew

/-- A request that starts no script takes off the queue what it is said to. -/
theorem requeues {c : Command} (hw : w.schedule.Keyed) (hstep : w.Requeues c v) :
    w.Carries v fun n ↦ c.Clears n w := by
  cases hstep with
  | puts a hschedule => exact .enqueued hw hschedule
  | takes hleft hseq _ hwaits => exact .of_leaving (hw.of_subset hleft.subset hseq) hseq hwaits

end World.Carries

/-- Whatever happens while scripts make requests, what they have queued waits on, unless one of
these requests takes it off the queue. -/
theorem Interpreter.Traces.carries {it : Interpreter} {noted : Note → Prop} {w v : World}
    {requests : List Request} {ns : List Note} (h : it.Traces noted w requests v ns)
    (hw : w.schedule.Keyed) (hpump : ∀ r ∈ requests, r.command ≠ .pump) :
    w.Carries v fun n ↦ ∃ r ∈ requests, r.command.Clears n r.world := by
  induction h with
  | refl | nest | note | remove => exact .of_eq hw rfl rfl
  | trans _ _ ihead itail =>
    obtain ⟨hfirst, hsecond⟩ := List.forall_mem_append.1 hpump
    have hhead := ihead hw hfirst
    refine (hhead.trans (itail hhead.keyed hsecond)).mono ?_
    rintro n (⟨r, hr, hclears⟩ | ⟨r, hr, hclears⟩)
    · exact ⟨r, List.mem_append_left _ hr, hclears⟩
    · exact ⟨r, List.mem_append_right _ hr, hclears⟩
  | request launch w other idle =>
    exact (World.Carries.requeues hw (Command.requeues other idle)).mono fun n hn ↦
      ⟨_, List.mem_singleton_self _, hn⟩
  | start _ _ _ ih =>
    refine (ih hw (List.forall_mem_cons.1 hpump).2).mono ?_
    rintro n ⟨r, hr, hclears⟩
    exact ⟨r, List.mem_cons_of_mem _ hr, hclears⟩
  -- A pump within a pump would fire what the scripts before it have queued.
  | pump => exact absurd rfl (hpump _ List.mem_cons_self)

namespace World

variable {w : World}

/-! ## The two sides -/

/-- A pump of a running module takes all that is due, as far as the settings allow, off the front of
the queue. -/
theorem taken_of_running (hkeyed : w.schedule.Keyed) (h : w.settled.schedule.running = true) :
    let due := w.schedule.actions.values.filter (·.timestamp ≤ w.clock.now)
    let processed := due.take (min (w.config.maxActionsPerPump.getD due.length) due.length)
    let ready := { w.settled with
      schedule.actions := w.schedule.actions.drop processed.length }
    w.pumped = processed ∧ w.taken = ready ∧
      w.schedule.actions.values = processed ++ ready.schedule.actions.values := by
  intro due processed ready
  have hdue : w.schedule.due w.clock.now w.config.maxActionsPerPump = processed :=
    hkeyed.due_eq w.clock.now w.config.maxActionsPerPump
  have hpumped : w.pumped = processed := (pumped_of_running h).trans hdue
  have htaken : w.taken = ready := by
    have hsettled : w.settled.schedule.due _ w.config.maxActionsPerPump = processed := hdue
    rw [taken, if_pos h, Schedule.snd_takeDue, hsettled]
    rfl
  refine ⟨hpumped, htaken, ?_⟩
  rw [← hpumped, ← htaken, w.pumped_append]

/-- A pump is kept apart from the work that it makes.  The clock is read once, before the events are
handed on.  If the module runs then, the pump fires the actions whose time has come by that clock,
in the order of their keys and as many as the settings allow; they are off the queue before the
first of them is fired, all of them are fired, and their number is the answer.  None of them has a
number that was given out meanwhile.  An action with such a number waits when the pump is done,
unless a request that a script made took it off the queue, as long as scripts do not pump
themselves.  If the module does not run, the queue stays as it is. -/
theorem pump_isolated (it : Interpreter) {w : World} (hw : w.Reachable) :
    let drained := (dispatchEvents w).state
    let due := drained.schedule.actions.values.filter (·.timestamp ≤ w.clock.now)
    let processed := due.take (min (w.config.maxActionsPerPump.getD due.length) due.length)
    let ready := { drained with
      schedule.actions := drained.schedule.actions.drop processed.length }
    let fired := Step.forEach processed (fire it (launch it)) ready
    let out := pump it (launch it) w
    (drained.schedule.running = true →
      out = ⟨processed.length, fired.state, (dispatchEvents w).log ++ fired.log⟩ ∧
        drained.schedule.actions.values = processed ++ ready.schedule.actions.values ∧
        processed.Pairwise (fun a b ↦ a.key.Before b.key) ∧
        (∀ a ∈ processed, a.seq < w.schedule.nextSeq) ∧
        ((∀ r ∈ Command.pump.course it w, r.command ≠ .pump) →
          ∀ n, w.schedule.nextSeq ≤ n → n < out.state.schedule.nextSeq →
            (∃ a ∈ out.state.schedule.actions.values, a.seq = n) ∨
              ∃ r ∈ Command.pump.course it w, r.command.Clears n r.world)) ∧
      (drained.schedule.running = false →
        out = ⟨0, drained, (dispatchEvents w).log⟩ ∧
          out.state.schedule.actions = w.schedule.actions) := by
  rw [state_dispatchEvents]
  intro drained due processed ready fired out
  have hkeyed := hw.keyed_schedule
  constructor
  · intro hrun
    have hout : out = _ := pump_eq w
    obtain ⟨hpumped, htaken, hfront⟩ : w.pumped = processed ∧ w.taken = ready ∧
        w.schedule.actions.values = processed ++ ready.schedule.actions.values :=
      taken_of_running hkeyed hrun
    have hready : ready.schedule.Keyed := hkeyed.of_subset (List.drop_subset _ _) rfl
    have hordered := hkeyed.pairwise_values
    rw [hfront] at hordered
    have hnotes : it.Notes fun _ ↦ True := fun inv ↦ (it.run inv).notes_of_all fun _ ↦ trivial
    have htraces := Interpreter.traces_fired hnotes w
    rw [hpumped, htaken] at hout htraces
    refine ⟨hout, hfront, (List.pairwise_append.1 hordered).1, fun a ha ↦ ?_, ?_⟩
    · refine hkeyed.lt_nextSeq ?_
      rw [hfront]
      exact List.mem_append_left _ ha
    · -- Numbers are given out from the same one on when the actions are off the queue.
      intro hpump n hnew hn
      rw [hout] at hn ⊢
      exact (htraces.carries hready hpump).waits n hn (.inl hnew)
  · intro hstopped
    have hout : out = ⟨0, drained, (dispatchEvents w).log⟩ := pump_of_not_running hstopped
    rw [hout]
    exact ⟨rfl, rfl⟩

/-- Of two scripts that are due only one is fired, and what it queues waits for a later pump. -/
theorem pump_isolated_requeuing :
    let config : Config := { Config.default with maxActionsPerPump := some 1 }
    let fresh := (start config ⟨10⟩ false 0 : Outcome Note World Unit).state
    let order := Action.script "a" .initial .invalid .invalid 10
    let half := { fresh with schedule := fresh.schedule.enqueued order }
    let w := { half with schedule := half.schedule.enqueued order }
    let out := pump requeuing (launch requeuing) w
    w.Reachable ∧ out.value = 1 ∧ w.schedule.nextSeq = 2 ∧
      ∃ a ∈ out.state.schedule.actions.values, a.seq = 2 := by
  intro config fresh order half w out
  have hfresh : fresh.Reachable := .start ..
  have hhalf : half.Reachable := hfresh.leads (leads_queue order)
  have hw : w.Reachable := hhalf.leads (leads_queue order)
  have hit : requeuing.Within fun c w ↦ c ≠ .pump ∧ ∀ n, ¬c.Clears n w :=
    fun _ _ _ ↦ ⟨⟨nofun, fun _ ↦ id⟩, trivial⟩
  have hcourse := hit.course .pump w
  obtain ⟨-, -, -, -, hwaits⟩ := (pump_isolated requeuing hw).1 rfl
  have hnext : 2 < out.state.schedule.nextSeq := by decide +kernel
  refine ⟨hw, by decide +kernel, rfl, ?_⟩
  rcases hwaits (fun r hr ↦ (hcourse r hr).1) 2 (Nat.le_refl 2) hnext with h | ⟨r, hr, hclears⟩
  · exact h
  · exact absurd hclears ((hcourse r hr).2 2)

end World

end ScriptHost
