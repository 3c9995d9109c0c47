import ScriptHost.Proofs.Engine.Effect
import ScriptHost.Proofs.Schedule.Pending

/-!
# What a pump does

A pump hands on the events, takes what is due off the queue and fires it.  The three parts are said
here one by one: `state_dispatchEvents` for the events, `pump_eq` for what is taken, and
`fire_state` for one action that is fired.
-/

namespace ScriptHost.World

variable {it : Interpreter} {launch : Launcher} {w : World}

/-! ## Events -/

/-- The world in which the module still runs only if there was no `quit` among some events. -/
def heeding (w : World) (events : List Event) : World :=
  { w with
    schedule.running := w.schedule.running && events.all fun e ↦ decide (e.kind ≠ .quit) }

theorem state_dispatchEvent (e : Event) (w : World) :
    (dispatchEvent e w).state = w.heeding [e] := by
  -- Whether anybody is told of the event shows in the log only.
  by_cases hquit : e.kind = .quit
  · have hheed : w.heeding [e] = { w with schedule := w.schedule.stop } := by
      simp [heeding, hquit, Schedule.stop]
    rw [hheed]
    cases hlisten : w.listening <;> simp [dispatchEvent, hquit, onSchedule, hlisten]
  · have hheed : w.heeding [e] = w := by simp [heeding, hquit]
    rw [hheed]
    cases hlisten : w.listening <;> simp [dispatchEvent, hquit, hlisten]

theorem state_forEach_dispatchEvent (events : List Event) (w : World) :
    (Step.forEach events dispatchEvent w).state = w.heeding events := by
  induction events generalizing w with
  | nil => simp [Step.forEach, heeding]
  | cons e rest ih =>
    rw [Step.forEach, Step.state_bind, ih, state_dispatchEvent]
    simp [heeding, Bool.and_assoc]

/-- The world once its events are handed on. -/
def settled (w : World) : World :=
  { w with
    schedule.events := []
    schedule.running :=
      w.schedule.running && w.schedule.events.all fun e ↦ decide (e.kind ≠ .quit) }

theorem state_dispatchEvents (w : World) : (dispatchEvents w).state = w.settled := by
  unfold dispatchEvents
  rw [Step.state_bind, state_forEach_dispatchEvent]
  rfl

/-! ## What is taken -/

/-- The actions that a pump takes off the queue. -/
def pumped (w : World) : List Action :=
  if w.settled.schedule.running then
    (w.settled.schedule.takeDue w.clock.now w.config.maxActionsPerPump).1
  else []

/-- The world once a pump has taken its actions off the queue, and before it fires them. -/
def taken (w : World) : World :=
  if w.settled.schedule.running then
    { w.settled with
      schedule := (w.settled.schedule.takeDue w.clock.now w.config.maxActionsPerPump).2 }
  else w.settled

/-- A pump of a running module takes what is due when the events are handed on. -/
theorem pumped_of_running (h : w.settled.schedule.running = true) :
    w.pumped = w.schedule.due w.clock.now w.config.maxActionsPerPump := by
  rw [pumped, if_pos h, Schedule.fst_takeDue]
  rfl

/-- A pump takes the front of the queue, and the rest waits on. -/
theorem pumped_append (w : World) :
    w.pumped ++ w.taken.schedule.actions.values = w.schedule.actions.values := by
  unfold pumped taken
  split
  · rw [Schedule.fst_takeDue]
    exact w.settled.schedule.due_append_takeDue _ _
  · rfl

/-- A pump takes what waits. -/
theorem pumped_subset (w : World) : w.pumped ⊆ w.schedule.actions.values := by
  rw [← w.pumped_append]
  exact List.subset_append_left _ _

/-- A pump takes only what is due. -/
theorem timestamp_le_of_mem_pumped {a : Action} (h : a ∈ w.pumped) : a.timestamp ≤ w.clock.now := by
  by_cases hrun : w.settled.schedule.running = true
  · rw [pumped_of_running hrun] at h
    exact Schedule.timestamp_le_of_mem_due h
  · rw [pumped, if_neg hrun] at h
    exact (List.not_mem_nil h).elim

theorem objects_taken (w : World) : w.taken.objects = w.objects := by
  unfold taken
  split <;> rfl

theorem clock_taken (w : World) : w.taken.clock = w.clock := by
  unfold taken
  split <;> rfl

theorem nextSeq_taken (w : World) : w.taken.schedule.nextSeq = w.schedule.nextSeq := by
  unfold taken
  split <;> rfl

theorem keyed_taken (h : w.schedule.Keyed) : w.taken.schedule.Keyed := by
  have hsettled : w.settled.schedule.Keyed := h.of_subset (List.Subset.refl _) rfl
  unfold taken
  split
  · exact hsettled.takeDue _ _
  · exact hsettled

/-- A pump fires what it takes, after all of it is off the queue. -/
theorem pump_eq (w : World) :
    pump it launch w =
      let fired := Step.forEach w.pumped (fire it launch) w.taken
      ⟨w.pumped.length, fired.state, (dispatchEvents w).log ++ fired.log⟩ := by
  let firing : Step Note World Nat := do
    let due ← takeDue w.clock.now
    Step.forEach due (fire it launch)
    return due.length
  have hpump : pump it launch w =
      let rest := if w.settled.schedule.running then firing w.settled else ⟨0, w.settled, []⟩
      ⟨rest.value, rest.state, (dispatchEvents w).log ++ rest.log⟩ := by
    rw [← Step.pure_apply, ← Step.gets_bind_ite (·.schedule.running) firing (pure 0),
      ← state_dispatchEvents]
    rfl
  rw [hpump]
  unfold pumped taken
  by_cases hrun : w.settled.schedule.running = true
  · rw [if_pos hrun, if_pos hrun, if_pos hrun]
    refine Outcome.ext rfl rfl (congrArg ((dispatchEvents w).log ++ ·) ?_)
    exact List.append_nil _
  · rw [if_neg hrun, if_neg hrun, if_neg hrun]
    rfl

theorem pump_apply (w : World) :
    (pump it launch w).state = (Step.forEach w.pumped (fire it launch) w.taken).state ∧
      (pump it launch w).value = w.pumped.length := by
  rw [pump_eq]
  exact ⟨rfl, rfl⟩

/-- A module that does not run once the events are handed on fires nothing. -/
theorem pump_of_not_running (h : w.settled.schedule.running = false) :
    pump it launch w = ⟨0, w.settled, (dispatchEvents w).log⟩ := by
  rw [pump_eq]
  unfold pumped taken
  rw [h]
  exact Outcome.ext rfl rfl (List.append_nil _)

/-! ## What is fired -/

theorem state_fireAll_append (before after : List Action) (w : World) :
    (Step.forEach (before ++ after) (fire it launch) w).state =
      (Step.forEach after (fire it launch)
        (Step.forEach before (fire it launch) w).state).state := by
  induction before generalizing w with
  | nil => rfl
  | cons a rest ih => exact ih _

/-- To fire a destruction removes an object, or does nothing. -/
theorem fire_destroy_state (it : Interpreter) (launch : Launcher) {a : Action}
    (h : a.kind = .destroy) (w : World) :
    (fire it launch a w).state = w ∨
      (fire it launch a w).state =
        ((removeObject (w.objects.resolveId a.owner .invalid) : Step Note World (Option Object))
          w).state := by
  unfold fire
  dsimp only
  split
  · exact .inl rfl
  · rw [h]
    exact .inr rfl

/-- To fire a script starts it, or does nothing. -/
theorem fire_script_state (it : Interpreter) (launch : Launcher) {a : Action} {name : String}
    {state : ScriptState} (h : a.kind = .script name state) (w : World) :
    (fire it launch a w).state = w ∨ ∃ inv, (fire it launch a w).state = (launch inv w).state := by
  unfold fire
  dsimp only
  split
  · exact .inl rfl
  · rw [h]
    dsimp only
    rw [Step.state_bind, Step.state_bind, Step.record_apply]
    generalize hrun : it.runScript launch name _ _ ∅ (some state) w = out
    -- How the script ended shows in the log only.
    have hout : out.state = w ∨ ∃ inv, out.state = (launch inv w).state :=
      hrun ▸ it.runScript_state launch name _ _ ∅ (some state) w
    cases out.value with
    | ok => exact hout
    | error e => exact hout

/-- To fire an action does nothing, removes an object or starts a script. -/
theorem fire_state (a : Action) (w : World) :
    (fire it launch a w).state = w ∨
      (∃ target, (fire it launch a w).state =
        ((removeObject target : Step Note World (Option Object)) w).state) ∨
      ∃ inv, (fire it launch a w).state = (launch inv w).state := by
  cases hkind : a.kind with
  | destroy => exact (fire_destroy_state it launch hkind w).imp_right fun h ↦ .inl ⟨_, h⟩
  | script name state => exact (fire_script_state it launch hkind w).imp_right .inr

end ScriptHost.World
