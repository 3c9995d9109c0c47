import ScriptHost.Proofs.Engine.Change
import ScriptHost.Proofs.Engine.Course
import ScriptHost.Proofs.Engine.FiringOrder

/-!
# How events are handed on

Events are added at the end of a queue, by the host or by scripts, and every pump hands on all that
are in it.  So one request of the host keeps the books: what was queued before, with what was added
meanwhile, is what was handed on, with what is queued after it (`Command.events_run`).  Over a run
this adds up to `events_handed_on_once`.

What is added while a pump fires actions is handed on by a later one, because a pump is done with
the events before it fires anything.  For the same reason a `quit` stops the module before the first
action, wherever among the events it is, and a module that was stopped does not run again.
-/

namespace ScriptHost

/-! ## Books -/

/-- The event that was handed on, if the note says so. -/
def Note.event? : Note → Option Event
  | event e => some e
  | _ => none

/-- The events that were handed on on the way to an outcome. -/
def Outcome.handed {σ α : Type} (out : Outcome Note σ α) : List Event :=
  out.notes.filterMap Note.event?

/-- The events that a request adds to the queue. -/
def Command.adds (w : World) : Command → List Event
  | pushEvent kind => [⟨w.clock.now, kind⟩]
  | schedule (.addEvent e) => [e]
  | _ => []

/-- The events that requests add to the queue, in the order in which they do. -/
def added (requests : List Request) : List Event :=
  requests.flatMap fun r ↦ r.command.adds r.world

/-- Whether a request leaves it to pumps to take events off the queue. -/
def Command.KeepsEvents : Command → Prop
  | schedule .clear | schedule .takeEvents | shutdown => False
  | _ => True

/-- What scripts may do: they may add events, but neither pump nor take events off the queue, and
they do not say of an event that it was handed on. -/
structure Interpreter.LeavesEvents (it : Interpreter) : Prop where
  requests : it.Within fun c _ ↦ c ≠ .pump ∧ c.KeepsEvents
  notes : it.Notes fun n ↦ n.event? = none

/-! ## Requests -/

section Requests

variable {it : Interpreter} {launch : Launcher} {w v : World} {c : Command}

/-- A request that starts a script adds nothing itself. -/
theorem Command.adds_of_start (h : c.start? it w ≠ none) : c.adds w = [] := by
  cases c with
  | runScript | executeScript | call => rfl
  | _ => exact absurd rfl h

theorem Command.events_perform (hc : c ≠ .pump) (hkeeps : c.KeepsEvents)
    (hidle : c.start? it w = none) :
    (c.perform it launch w).state.schedule.events = w.schedule.events ++ c.adds w := by
  have hsame : ∀ {events : List Event}, events = w.schedule.events →
      events = w.schedule.events ++ [] := fun h ↦ h.trans (List.append_nil _).symm
  cases c with
  | pump => exact absurd rfl hc
  | shutdown => exact hkeeps.elim
  | schedule c =>
    cases c with
    | clear | takeEvents => exact hkeeps.elim
    | addEvent e => rfl
    | _ => exact hsame rfl
  | pushEvent kind => rfl
  | call function args site =>
    refine hsame ?_
    obtain ⟨-, hstate | ⟨f, b, -, -, -, hleaves⟩⟩ := World.leaves_call launch hidle
    · exact congrArg (·.schedule.events) hstate
    · change (World.call it launch function args site w).state.schedule.events = _
      generalize (World.call it launch function args site w).state = v at hleaves
      generalize b.scope = scope at hleaves
      cases hleaves with
      | _ => rfl
  | runScript | executeScript =>
    exact hsame (congrArg (·.state.schedule.events) (it.runScript_of_none launch hidle))
  | _ => exact hsame rfl

namespace Interpreter.Traces

variable {noted : Note → Prop} {requests : List Request} {ns : List Note}

/-- What scripts add is queued behind the rest, in the order in which they do. -/
theorem events (h : it.Traces noted w requests v ns)
    (hrequests : ∀ r ∈ requests, r.command ≠ .pump ∧ r.command.KeepsEvents) :
    v.schedule.events = w.schedule.events ++ added requests := by
  induction h with
  | refl | nest | note | remove => exact (List.append_nil _).symm
  | trans _ _ ihead itail =>
    obtain ⟨hfirst, hsecond⟩ := List.forall_mem_append.1 hrequests
    rw [itail hsecond, ihead hfirst, added, added, added, List.flatMap_append, List.append_assoc]
  | request launch w other idle =>
    have hkeeps := (hrequests _ (List.mem_singleton_self _)).2
    rw [Command.events_perform other hkeeps idle, added, List.flatMap_singleton]
  | start _ starts _ ih =>
    rw [ih (List.forall_mem_cons.1 hrequests).2, added, added, List.flatMap_cons,
      Command.adds_of_start starts, List.nil_append]
  | pump => exact absurd rfl (hrequests _ List.mem_cons_self).1

/-- Without a pump, no event is handed on. -/
theorem handed (h : it.Traces (fun n ↦ n.event? = none) w requests v ns)
    (hrequests : ∀ r ∈ requests, r.command ≠ .pump) : ns.filterMap Note.event? = [] := by
  induction h with
  | refl | nest | remove | request => rfl
  | note w allowed => rw [List.filterMap_cons_none allowed, List.filterMap_nil]
  | trans _ _ ihead itail =>
    obtain ⟨hfirst, hsecond⟩ := List.forall_mem_append.1 hrequests
    rw [List.filterMap_append, ihead hfirst, itail hsecond, List.append_nil]
  | start _ _ _ ih => exact ih (List.forall_mem_cons.1 hrequests).2
  | pump => exact absurd rfl (hrequests _ List.mem_cons_self)

end Interpreter.Traces

end Requests

/-! ## Pumps -/

namespace World

variable {it : Interpreter} {w v : World}

theorem notes_dispatchEvent (h : w.listening = true) (e : Event) :
    (dispatchEvent e w).notes = [.event e] := by
  by_cases hquit : e.kind = .quit
  · simp [dispatchEvent, hquit, onSchedule, h, Outcome.notes, List.filterMap_cons, Entry.note?]
  · simp [dispatchEvent, hquit, h, Outcome.notes, List.filterMap_cons, Entry.note?]

theorem notes_forEach_dispatchEvent (h : w.listening = true) (events : List Event) :
    (Step.forEach events dispatchEvent w).notes = events.map .event := by
  induction events generalizing w with
  | nil => rfl
  | cons e rest ih =>
    have hnext : (dispatchEvent e w).state.listening = true := by
      rw [state_dispatchEvent]
      exact h
    rw [Step.forEach, Step.notes_bind, notes_dispatchEvent h, ih hnext]
    rfl

/-- Where somebody listens, all events are handed on in their order, a `quit` among them or not. -/
theorem handed_dispatchEvents (h : w.listening = true) :
    (dispatchEvents w).handed = w.schedule.events := by
  have hnotes : (dispatchEvents w).notes = w.schedule.events.map .event := by
    unfold dispatchEvents
    rw [Step.notes_bind]
    exact notes_forEach_dispatchEvent (w := { w with schedule.events := [] }) h _
  have hevent : Note.event? ∘ Note.event = some := rfl
  rw [Outcome.handed, hnotes, List.filterMap_map, hevent, List.filterMap_some]

/-- A pump hands on what was queued before it, and leaves queued what is added in its course. -/
theorem events_pump (hit : it.LeavesEvents) (h : w.listening = true) :
    let out := Command.pump.run it w
    out.handed = w.schedule.events ∧
      out.state.schedule.events = added (Command.pump.course it w) := by
  intro out
  have hcourse := hit.requests.course .pump w
  have htraces := Interpreter.traces_fired hit.notes w
  have hnotes : out.notes = _ := notes_pump it (launch it) w
  have hstate : out.state = _ := (pump_apply w).1
  -- No event is queued any more when the first action is fired.
  have htaken : w.taken.schedule.events = [] := by
    unfold taken
    split
    · rfl
    · rfl
  constructor
  · rw [Outcome.handed, hnotes, List.filterMap_append, htraces.handed fun r hr ↦ (hcourse r hr).1,
      List.append_nil]
    exact handed_dispatchEvents h
  · rw [hstate, htraces.events hcourse, htaken, List.nil_append]

/-! ## What lasts -/

theorem Alters.listening (h : w.Alters v) : v.listening = w.listening := by
  cases h <;> rfl

theorem Leads.listening (h : w.Leads v) (hw : w.listening = true) : v.listening = true :=
  h.keeps (P := fun w ↦ w.listening = true) (fun _ _ hstep ↦ hstep.listening.trans) hw

/-- A module that was stopped does not run again. -/
theorem Alters.stopped (h : w.Alters v) (hw : w.schedule.running = false) :
    v.schedule.running = false := by
  cases h with
  | actions change =>
    cases change with
    | _ => exact hw
  | events events running stays =>
    refine Bool.eq_false_iff.2 fun hrunning ↦ ?_
    exact Bool.eq_false_iff.1 hw (stays hrunning)
  | objects | edit | searches | clock | random | nest | release => exact hw

theorem Leads.stopped (h : w.Leads v) (hw : w.schedule.running = false) :
    v.schedule.running = false :=
  h.keeps (P := fun w ↦ w.schedule.running = false) (fun _ _ ↦ Alters.stopped) hw

theorem settled_eq {running : Bool} (h : w.settled.schedule.running = running) :
    w.settled = { w with schedule.events := [], schedule.running := running } := by
  subst h
  rfl

/-- The pump of a module that was stopped hands on the events, and that is all. -/
theorem pump_of_stopped (h : w.schedule.running = false) :
    Command.pump.run it w = ⟨0, { w with schedule.events := [] }, (dispatchEvents w).log⟩ := by
  have hstopped : w.settled.schedule.running = false := Bool.and_eq_false_imp.2 fun hrun ↦ by
    rw [h] at hrun
    cases hrun
  have hsettled : w.settled = { w with schedule.events := [] } :=
    settled_eq (hstopped.trans h.symm)
  rw [← hsettled]
  exact pump_of_not_running hstopped

/-- A `quit` stops the module before anything is fired. -/
theorem pump_of_quit (h : ∃ e ∈ w.schedule.events, e.kind = .quit) :
    Command.pump.run it w =
      ⟨0, { w with schedule.events := [], schedule.running := false }, (dispatchEvents w).log⟩ := by
  obtain ⟨e, he, hquit⟩ := h
  have hall : w.schedule.events.all (fun e ↦ decide (e.kind ≠ .quit)) = false :=
    List.all_eq_false.2 ⟨e, he, by simp [hquit]⟩
  have hstopped : w.settled.schedule.running = false := Bool.and_eq_false_imp.2 fun _ ↦ hall
  rw [← settled_eq hstopped]
  exact pump_of_not_running hstopped

end World

/-! ## Runs -/

/-- The events that are handed on in a run. -/
def handedInRun (it : Interpreter) : List Command → World → List Event
  | [], _ => []
  | c :: rest, w => (c.run it w).handed ++ handedInRun it rest (c.run it w).state

/-- The events that are added in a run, by the host and by scripts. -/
def addedInRun (it : Interpreter) : List Command → World → List Event
  | [], _ => []
  | c :: rest, w => added (⟨c, w⟩ :: c.course it w) ++ addedInRun it rest (c.run it w).state

section Runs

variable {it : Interpreter} {w : World}

theorem Command.leads_run (it : Interpreter) (c : Command) (w : World) :
    w.Leads (c.run it w).state :=
  World.leads_perform Interpreter.Starts.host.leads c w

theorem leads_afterRun (it : Interpreter) (cs : List Command) (w : World) :
    w.Leads (afterRun it cs w) := by
  induction cs generalizing w with
  | nil => exact .refl w
  | cons c rest ih => exact (c.leads_run it w).trans (ih _)

/-- One request keeps the books. -/
theorem Command.events_run (hit : it.LeavesEvents) (hw : w.listening = true) {c : Command}
    (hc : c.KeepsEvents) :
    (c.run it w).handed ++ (c.run it w).state.schedule.events =
      w.schedule.events ++ added (⟨c, w⟩ :: c.course it w) := by
  by_cases hpump : c = .pump
  · subst hpump
    obtain ⟨hhanded, hevents⟩ := World.events_pump hit hw
    rw [hhanded, hevents]
    rfl
  · have hrequests : ∀ r ∈ (⟨c, w⟩ :: c.course it w : List Request),
        r.command ≠ .pump ∧ r.command.KeepsEvents :=
      List.forall_mem_cons.2 ⟨⟨hpump, hc⟩, hit.requests.course c w⟩
    have htraces := Interpreter.traces_run hit.notes c w
    rw [Outcome.handed, htraces.handed fun r hr ↦ (hrequests r hr).1, List.nil_append,
      htraces.events hrequests]

/-- So does a run. -/
theorem events_afterRun (hit : it.LeavesEvents) (hw : w.listening = true) {cs : List Command}
    (hcs : ∀ c ∈ cs, c.KeepsEvents) :
    handedInRun it cs w ++ (afterRun it cs w).schedule.events =
      w.schedule.events ++ addedInRun it cs w := by
  induction cs generalizing w with
  | nil => exact (List.append_nil _).symm
  | cons c rest ih =>
    obtain ⟨hc, hrest⟩ := List.forall_mem_cons.1 hcs
    have hnext := (c.leads_run it w).listening hw
    calc handedInRun it (c :: rest) w ++ (afterRun it (c :: rest) w).schedule.events
        = (c.run it w).handed ++ (handedInRun it rest (c.run it w).state ++
            (afterRun it rest (c.run it w).state).schedule.events) := List.append_assoc _ _ _
      _ = ((c.run it w).handed ++ (c.run it w).state.schedule.events) ++
            addedInRun it rest (c.run it w).state := by rw [ih hnext hrest, List.append_assoc]
      _ = w.schedule.events ++ addedInRun it (c :: rest) w := by
        rw [Command.events_run hit hw hc, List.append_assoc, addedInRun]

end Runs

/-- Events are handed on once, in the order in which they were added, and a `quit` is final.  Over a
run of requests, in a world where somebody listens, what is handed on and then what is still queued
is what was queued at first and then what was added, by the host or by scripts.  A pump hands on all
that was queued before it, and nothing that is added in its course.  If there is a `quit` anywhere
among the events, nothing is fired, and whatever comes after it, the module does not run again: a
pump hands on the events, and that is all that it does. -/
theorem events_handed_on_once (it : Interpreter) (hit : it.LeavesEvents) {w : World}
    (hw : w.listening = true) (cs : List Command) (hcs : ∀ c ∈ cs, c.KeepsEvents) :
    handedInRun it cs w ++ (afterRun it cs w).schedule.events =
        w.schedule.events ++ addedInRun it cs w ∧
      ∀ before after, cs = before ++ .pump :: after →
        let v := afterRun it before w
        let out := Command.pump.run it v
        out.handed = v.schedule.events ∧
          out.state.schedule.events = added (Command.pump.course it v) ∧
          ((∃ e ∈ v.schedule.events, e.kind = .quit) →
            out = ⟨0, { v with schedule.events := [], schedule.running := false },
              (World.dispatchEvents v).log⟩ ∧
            ∀ u, out.state.Leads u → u.schedule.running = false ∧
              Command.pump.run it u =
                ⟨0, { u with schedule.events := [] }, (World.dispatchEvents u).log⟩ ∧
              (Command.pump.run it u).handed = u.schedule.events) := by
  refine ⟨events_afterRun hit hw hcs, ?_⟩
  rintro before after - v out
  have hv : v.listening = true := (leads_afterRun it before w).listening hw
  obtain ⟨hhanded, hevents⟩ := World.events_pump hit hv
  refine ⟨hhanded, hevents, fun hquit ↦ ?_⟩
  have hout : out = _ := World.pump_of_quit hquit
  refine ⟨hout, fun u hleads ↦ ?_⟩
  rw [hout] at hleads
  have hstopped : u.schedule.running = false := hleads.stopped rfl
  have hu : u.listening = true := hleads.listening hv
  exact ⟨hstopped, World.pump_of_stopped hstopped, (World.events_pump hit hu).1⟩

/-- Every script, when it is started, adds an event with its name. -/
def announcing : Interpreter where
  resolve _ := some []
  run inv := .perform (.pushEvent (.custom inv.script.name)) fun _ ↦ .done

/-- The event of a script that the first pump fires is handed on by the second, together with a
`quit` that does not come last; the script that is due then is not fired. -/
theorem events_handed_on_once_announcing :
    let w := (World.start .default ⟨0⟩ true 0 : Outcome Note World Unit).state
    let order := Command.delayScript "a" .initial .invalid .invalid 0
    let before := [.pushEvent (.keyDown 1), order, .pump, .pushEvent .quit, .pushEvent (.keyUp 1),
      order]
    let cs := before ++ [.pump]
    announcing.LeavesEvents ∧ w.listening = true ∧ (∀ c ∈ cs, c.KeepsEvents) ∧
      (handedInRun announcing cs w).map Event.kind =
        [.keyDown 1, .custom "a", .quit, .keyUp 1] ∧
      handedInRun announcing cs w ++ (afterRun announcing cs w).schedule.events =
        addedInRun announcing cs w ∧
      (Command.pump.run announcing (afterRun announcing before w)).value = 0 := by
  intro w order before cs
  have hit : announcing.LeavesEvents :=
    ⟨fun _ _ _ ↦ ⟨⟨nofun, trivial⟩, trivial⟩, fun _ _ ↦ trivial⟩
  have hcs : ∀ c ∈ cs, c.KeepsEvents := by
    simp [cs, before, order, Command.KeepsEvents]
  obtain ⟨hbooks, hpumps⟩ := events_handed_on_once announcing hit (w := w) rfl cs hcs
  obtain ⟨-, -, hquit⟩ := hpumps before [] rfl
  have hout := (hquit (by decide +kernel)).1
  exact ⟨hit, rfl, hcs, by decide +kernel, hbooks, congrArg Outcome.value hout⟩

end ScriptHost
