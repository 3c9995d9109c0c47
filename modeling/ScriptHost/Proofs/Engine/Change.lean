import Mathlib.Logic.Relation
import ScriptHost.Proofs.Engine.Pump
import ScriptHost.Proofs.Object.Container
import ScriptHost.Proofs.Schedule.Conservation

/-!
# What comes after a world

Whatever the host asks of a world, and whatever scripts do in it, the world changes in small steps,
each of one part (`World.Alters`).  A world *leads* to those that such steps can turn it into.  This
allows more than the engine does, since it forgets in which order it does things; but it allows all
that the engine does: every request, every script, every turn of a pump leads from one world to
another (`leads_perform`, `leads_launchAt`, `leads_fire`).  So what one small step keeps holds in
all worlds of all runs, those in the middle of a script or of a pump included.
-/

namespace ScriptHost

/-! ## Small steps -/

/-- Makes a change to the actions. -/
def Schedule.apply (s : Schedule) : Schedule.Change → Schedule
  | .queue a => s.enqueued a
  | .takeDue now limit => (s.takeDue now limit).2
  | .clearActionsFor owner => s.calledOff owner
  | .clearActions => s.clearActions
  | .clear => s.clear

/-- A change brings in at most the action that it queues, under the next number. -/
theorem Schedule.mem_values_apply {s : Schedule} {change : Schedule.Change} {a : Action}
    (h : a ∈ (s.apply change).actions.values) :
    a ∈ s.actions.values ∨ ∃ b, change = .queue b ∧ a = { b with seq := s.nextSeq } := by
  obtain ⟨e, he, rfl⟩ := List.mem_map.1 h
  cases change with
  | queue b =>
    rcases SortedMap.mem_of_mem_insert he with rfl | hold
    · exact .inr ⟨b, rfl, rfl⟩
    · exact .inl (List.mem_map_of_mem hold)
  | takeDue now limit =>
    exact .inl (List.mem_map_of_mem ((s.entries_takeDue_sublist now limit).mem he))
  | clearActionsFor owner => exact .inl (List.mem_map_of_mem (List.mem_filter.1 he).1)
  | clearActions | clear => exact (List.not_mem_nil he).elim

/-- The worlds that one small step can turn a world into. -/
inductive World.Alters (w : World) : World → Prop where
  | objects (change : Container.Change) : Alters w { w with objects := w.objects.apply change }
  | edit (id : ObjectId) (f : Object → Object) (keeps : Object.KeepsFile f) :
      Alters w { w with objects := w.objects.edit id f }
  | searches (searches : SortedMap String Search) : Alters w { w with searches }
  | actions (change : Schedule.Change) : Alters w { w with schedule := w.schedule.apply change }
  /-- A module that was stopped does not run again. -/
  | events (events : List Event) (running : Bool)
      (stays : running = true → w.schedule.running = true) :
      Alters w { w with schedule.events := events, schedule.running := running }
  | clock (clock : Clock) : Alters w { w with clock }
  | random (random : Generator) : Alters w { w with random }
  | nest (depth : Nat) : Alters w { w with depth }
  | release : Alters w { w with functions := w.functions.clear }

namespace World

/-- One world comes after another, in as many small steps as it takes. -/
def Leads : World → World → Prop :=
  Relation.ReflTransGen Alters

/-- A world that can come about from a fresh one. -/
def Reachable (w : World) : Prop :=
  ∃ config clock listening entropy,
    Leads (start config clock listening entropy : Outcome Note World Unit).state w

variable {w v u : World} {it : Interpreter} {launch : Launcher}

theorem Alters.leads (h : w.Alters v) : w.Leads v := .single h

theorem Leads.refl (w : World) : w.Leads w := Relation.ReflTransGen.refl

theorem Leads.trans (h : w.Leads v) (h' : v.Leads u) : w.Leads u := Relation.ReflTransGen.trans h h'

theorem Reachable.start (config : Config) (clock : Clock) (listening : Bool) (entropy : UInt64) :
    (World.start config clock listening entropy : Outcome Note World Unit).state.Reachable :=
  ⟨config, clock, listening, entropy, .refl _⟩

theorem Reachable.leads (hw : w.Reachable) (h : w.Leads v) : v.Reachable := by
  obtain ⟨config, clock, listening, entropy, hstart⟩ := hw
  exact ⟨config, clock, listening, entropy, hstart.trans h⟩

/-- What small steps keep is kept as long as a world is followed. -/
theorem Leads.keeps {P : World → Prop} (h : w.Leads v) (hstep : ∀ w v, Alters w v → P w → P v)
    (hw : P w) : P v := by
  induction h with
  | refl => exact hw
  | tail _ hlast ih => exact hstep _ _ hlast ih

/-! ## Requests that start no script -/

theorem leads_objects {objects : Container} {change : Container.Change}
    (h : objects = w.objects.apply change) : w.Leads { w with objects } := by
  subst h
  exact (Alters.objects change).leads

/-- Changes may be made to the objects one after the other. -/
theorem leads_objects_run (w : World) (changes : List Container.Change) :
    w.Leads { w with objects := w.objects.run changes } := by
  induction changes generalizing w with
  | nil => exact .refl w
  | cons change rest ih => exact (Alters.objects change).leads.trans (ih _)

theorem leads_edit (id : ObjectId) {f : Object → Object} (hf : Object.KeepsFile f) :
    w.Leads { w with objects := w.objects.edit id f } :=
  (Alters.edit id f hf).leads

theorem leads_remove (target : ObjectId) :
    w.Leads ((removeObject target : Step Note World (Option Object)) w).state :=
  leads_objects (w.objects.state_remove target)

theorem leads_queue (a : Action) : w.Leads { w with schedule := w.schedule.enqueued a } :=
  (Alters.actions (.queue a)).leads

/-- What leaves the objects as they are changes the searches at most. -/
theorem state_browse_of_objects {α : Type} {x : Step Note Browsing α}
    (h : (x ⟨w.objects, w.searches⟩).state.objects = w.objects) :
    (browse x w).state = { w with searches := (x ⟨w.objects, w.searches⟩).state.searches } := by
  unfold browse
  rw [Step.state_zoom, h]

theorem objects_useSearch {α : Type} (slot : String) (use : Search → Container → α × Search)
    (b : Browsing) :
    ((ObjectCommand.useSearch slot use : Step Note Browsing _) b).state.objects = b.objects := by
  unfold ObjectCommand.useSearch
  cases b.searches.get? slot with
  | none => rfl
  | some s => rfl

theorem objects_searchCopy (slot target : String) (b : Browsing) :
    ((ObjectCommand.searchCopy slot target).perform (ν := Note) b).state.objects = b.objects := by
  unfold ObjectCommand.perform
  dsimp only
  cases b.searches.get? slot with
  | none => rfl
  | some s => rfl

theorem leads_of_objects {α : Type} {x : Step Note Browsing α}
    (h : (x ⟨w.objects, w.searches⟩).state.objects = w.objects) : w.Leads (browse x w).state := by
  rw [state_browse_of_objects h]
  exact (Alters.searches _).leads

theorem leads_browse (c : ObjectCommand) (w : World) :
    w.Leads ((browse c.perform : Step Note World c.Reply) w).state := by
  cases c with
  | add o => exact leads_objects (w.objects.state_add o)
  | remove id => exact leads_objects (w.objects.state_remove id)
  | setTag id tag => exact (Alters.objects (.setTag id tag)).leads
  | clear => exact (Alters.objects .clear).leads
  | get | contains | all | findByTag | resolve | sort | nearest | readLocal => exact .refl w
  | rename | setName | setPosition | setOrientation | setRelation | clearRelation | addItem
  | removeItem | hasItem | disarmTrap | setTrap | setLocal | deleteLocal =>
    exact leads_edit _ fun _ ↦ ⟨rfl, rfl, rfl⟩
  | searchStart slot key => exact (Alters.searches _).leads
  | searchCopy slot target => exact leads_of_objects (objects_searchCopy ..)
  | searchNext slot | searchGet slot | searchStep slot | searchDrain slot =>
    exact leads_of_objects (objects_useSearch ..)

theorem leads_onSchedule (c : ScheduleCommand) (w : World) :
    w.Leads ((onSchedule c.perform : Step Note World c.Reply) w).state := by
  cases c with
  | queueScript | queueDestroy => exact leads_queue _
  | takeDue now limit => exact (Alters.actions (.takeDue now limit)).leads
  | clearActionsFor owner => exact (Alters.actions (.clearActionsFor owner)).leads
  | clearActions => exact (Alters.actions .clearActions).leads
  | clear => exact (Alters.actions .clear).leads
  | stop => exact (Alters.events w.schedule.events false nofun).leads
  | addEvent e => exact (Alters.events (w.schedule.events ++ [e]) w.schedule.running id).leads
  | takeEvents => exact (Alters.events [] w.schedule.running id).leads
  | actions | nextFireTime | object | diagnostic => exact .refl w

theorem leads_shutdown (w : World) : w.Leads ((shutdown : Step Note World Unit) w).state := by
  let stopped : World := { w with schedule := w.schedule.stop }
  let cleared : World := { stopped with schedule := stopped.schedule.clear }
  let emptied : World := { cleared with objects := cleared.objects.clear }
  have hstop : w.Leads stopped := (Alters.events w.schedule.events false nofun).leads
  have hclear : stopped.Leads cleared := (Alters.actions .clear).leads
  have hempty : cleared.Leads emptied := (Alters.objects .clear).leads
  have hrelease : emptied.Leads ((shutdown : Step Note World Unit) w).state := Alters.release.leads
  exact ((hstop.trans hclear).trans hempty).trans hrelease

/-! ## Requests that may start scripts -/

/-- What an engine function does is made of small steps, if what scripts do is. -/
theorem Effect.leads (hlaunch : ∀ inv w, Leads w (launch inv w).state) (h : w.Effect launch v) :
    w.Leads v := by
  cases h with
  | nothing => exact .refl w
  | draw max => exact (Alters.random _).leads
  | defer | doom => exact leads_queue _
  | remove target => exact leads_remove target
  | cancel owner => exact (Alters.actions (.clearActionsFor owner)).leads
  | setLocal target name v => exact leads_edit target fun _ ↦ ⟨rfl, rfl, rfl⟩
  | deleteLocal target name t =>
    refine leads_edit target fun o ↦ ?_
    split
    · exact ⟨rfl, rfl, rfl⟩
    · exact ⟨rfl, rfl, rfl⟩
  | start inv => exact hlaunch inv w

theorem leads_runScript (hlaunch : ∀ inv w, Leads w (launch inv w).state) (name : String)
    (owner triggerer : ObjectId) (environment : Environment) (state : Option ScriptState)
    (w : World) :
    w.Leads (it.runScript launch name owner triggerer environment state w).state := by
  rcases it.runScript_state launch name owner triggerer environment state w with h | ⟨inv, h⟩
  · rw [h]
    exact .refl w
  · rw [h]
    exact hlaunch inv w

/-- A pump leads to the world in which all that is due is off the queue. -/
theorem leads_taken (w : World) : w.Leads w.taken := by
  have hsettled : w.Leads w.settled :=
    (Alters.events [] _ fun h ↦ ((Bool.and_eq_true _ _).mp h).1).leads
  unfold taken
  split
  · exact hsettled.trans (Alters.actions (.takeDue w.clock.now w.config.maxActionsPerPump)).leads
  · exact hsettled

theorem leads_fire (hlaunch : ∀ inv w, Leads w (launch inv w).state) (a : Action) (w : World) :
    w.Leads (fire it launch a w).state := by
  rcases fire_state a w with h | ⟨target, h⟩ | ⟨inv, h⟩
  · rw [h]
    exact .refl w
  · rw [h]
    exact leads_remove target
  · rw [h]
    exact hlaunch inv w

theorem leads_fireAll (hlaunch : ∀ inv w, Leads w (launch inv w).state) (actions : List Action)
    (w : World) : w.Leads (Step.forEach actions (fire it launch) w).state := by
  induction actions generalizing w with
  | nil => exact .refl w
  | cons a rest ih => exact (leads_fire hlaunch a w).trans (ih _)

theorem leads_perform (hlaunch : ∀ inv w, Leads w (launch inv w).state) (c : Command) (w : World) :
    w.Leads (c.perform it launch w).state := by
  cases c with
  | objects c => exact leads_browse c w
  | schedule c => exact leads_onSchedule c w
  | moveObject id area position => exact leads_edit id fun _ ↦ ⟨rfl, rfl, rfl⟩
  | call function args site => exact (effect_call function args site).leads hlaunch
  | random max => exact (Alters.random _).leads
  | runScript | executeScript => exact leads_runScript hlaunch ..
  | delayScript | destroyDelayed => exact leads_queue _
  | pushEvent kind => exact leads_onSchedule (.addEvent ⟨w.clock.now, kind⟩) w
  | pump =>
    have hpump : (Command.pump.perform it launch w).state = _ := (pump_apply w).1
    rw [hpump]
    exact (leads_taken w).trans (leads_fireAll hlaunch _ _)
  | setClock | advanceClock => exact (Alters.clock _).leads
  | shutdown => exact leads_shutdown w
  | loadScript | functions | config | diagnostic | frameFree => exact .refl w

/-! ## Scripts -/

theorem leads_exec {perform : (c : Command) → Step Note World c.Reply}
    (h : ∀ c w, Leads w (perform c w).state) (p : Program) (w : World) :
    w.Leads (p.exec perform w).state := by
  induction p generalizing w with
  | finish result => exact .refl w
  | perform c next ih => exact (h c w).trans (ih _ _)
  | observe next ih => exact ih w w
  | note n next ih => exact ih w

/-- Scripts do nothing but small steps, however deep they start one another. -/
theorem leads_launchAt (it : Interpreter) (levels : Nat) (inv : Invocation) (w : World) :
    w.Leads (launchAt it levels inv w).state := by
  induction levels generalizing inv w with
  | zero => exact .refl w
  | succ levels ih =>
    have hperform : ∀ c v, Leads v (Command.perform it (launchAt it levels) c v).state :=
      leads_perform ih
    have hbody := leads_exec hperform (it.run inv) { w with depth := w.depth + 1 }
    exact ((Alters.nest _).leads.trans hbody).trans (Alters.nest _).leads

end World

/-- How an interpreter starts scripts: for the host, or for a script with so many levels left. -/
inductive Interpreter.Starts (it : Interpreter) : Launcher → Prop where
  | host : Starts it (launch it)
  | script (levels : Nat) : Starts it (launchAt it levels)

theorem Interpreter.Starts.leads {it : Interpreter} {start : Launcher} (h : it.Starts start)
    (inv : Invocation) (w : World) : w.Leads (start inv w).state := by
  cases h with
  | host => exact World.leads_launchAt it _ inv w
  | script levels => exact World.leads_launchAt it levels inv w

/-! ## What small steps keep -/

namespace World

variable {w v : World}

/-- No small step upsets the container. -/
theorem Alters.wellFormed_objects (h : w.Alters v) (hw : w.objects.WellFormed) :
    v.objects.WellFormed := by
  cases h with
  | objects change => exact hw.apply change
  | edit id f keeps => exact hw.edit id keeps
  | searches | actions | events | clock | random | nest | release => exact hw

/-- Every action that waits does so under its own key, with a number given out before. -/
theorem Alters.keyed_schedule (h : w.Alters v) (hw : w.schedule.Keyed) : v.schedule.Keyed := by
  cases h with
  | actions change =>
    cases change with
    | queue a => exact hw.enqueued a
    | takeDue now limit => exact hw.takeDue now limit
    | clearActionsFor owner => exact hw.calledOff owner
    | clearActions | clear => exact hw.of_subset (List.nil_subset _) rfl
  | events => exact ⟨hw.key_eq, hw.seq_lt⟩
  | objects | edit | searches | clock | random | nest | release => exact hw

theorem Reachable.wellFormed_objects (h : w.Reachable) : w.objects.WellFormed := by
  obtain ⟨config, clock, listening, entropy, hleads⟩ := h
  refine hleads.keeps (P := fun w ↦ w.objects.WellFormed) (fun _ _ ↦ Alters.wellFormed_objects) ?_
  change ((Container.add _ : Step Note Container ObjectId) .empty).state.WellFormed
  rw [Container.state_add]
  exact Container.WellFormed.empty.apply _

theorem Reachable.keyed_schedule (h : w.Reachable) : w.schedule.Keyed := by
  obtain ⟨config, clock, listening, entropy, hleads⟩ := h
  exact hleads.keeps (P := fun w ↦ w.schedule.Keyed) (fun _ _ ↦ Alters.keyed_schedule) (.start _)

/-! ## Worlds to start from -/

/-- A world as it is at the start, with the settings that are the default. -/
def fresh : World :=
  (start .default ⟨0⟩ false 0 : Outcome Note World Unit).state

/-- A fresh world after some changes to its objects. -/
def populated (changes : List Container.Change) : World :=
  { fresh with objects := fresh.objects.run changes }

theorem reachable_fresh : fresh.Reachable :=
  .start ..

theorem reachable_populated (changes : List Container.Change) : (populated changes).Reachable :=
  reachable_fresh.leads (leads_objects_run fresh changes)

end World

/-- Every script, when it is started, does nothing. -/
def Interpreter.idle : Interpreter where
  resolve _ := some []
  run _ := .done

end ScriptHost
