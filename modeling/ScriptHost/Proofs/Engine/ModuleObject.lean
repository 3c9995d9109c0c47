import ScriptHost.Proofs.Engine.Nesting
import ScriptHost.Proofs.Engine.Totality
import ScriptHost.Proofs.Object.Reference

/-!
# The module outlasts its scripts

One object stands for the module, and engine functions do not destroy it: `DestroyObject` leaves it
alone, whatever it is called by, and that is the only guard.  Nothing looks again when a destruction
is fired that was put off.  So what has to be known is the queue: no destruction that waits is one
of the module.  `World.Shelters` is this invariant.  It holds as long as the host does not itself
remove the module, queue its destruction or shut down, and it holds while scripts run as well: where
they are started, where they make a request and where they get the answer.
-/

namespace ScriptHost

/-! ## Scripts that keep to what is allowed -/

namespace Program

variable {allowed : Command → World → Prop} {P : World → Prop} {p : Program} {w v : World}
variable {perform perform' : (c : Command) → Step Note World c.Reply} {c : Command}

/-- What a program asks for depends on the answers only where it gets one. -/
theorem Within.congr (hp : p.Within allowed perform w)
    (h : ∀ c v, p.Asks perform w c v → perform c v = perform' c v) :
    p.Within allowed perform' w := by
  induction p generalizing w with
  | finish result => trivial
  | perform c next ih =>
    obtain ⟨hc, hnext⟩ := hp
    refine ⟨hc, ?_⟩
    rw [← h c w .now]
    exact ih _ hnext fun c' v' hasks ↦ h c' v' (.later hasks)
  | observe next ih => exact ih w hp fun c v hasks ↦ h c v (.observe hasks)
  | note n next ih => exact ih hp fun c v hasks ↦ h c v (.note hasks)

/-- What the allowed requests keep holds wherever one is made, and it is allowed there. -/
theorem Asks.keeps_within (hasks : p.Asks perform w c v) (hp : p.Within allowed perform w)
    (h : ∀ c w, allowed c w → P w → P (perform c w).state) (hw : P w) : P v ∧ allowed c v := by
  induction hasks with
  | now => exact ⟨hw, hp.1⟩
  | later _ ih => exact ih hp.2 (h _ _ hp.1 hw)
  | observe _ ih => exact ih hp hw
  | note _ ih => exact ih hp hw

end Program

/-- Where the levels that are left are those that the settings leave, a script is answered as the
host is. -/
theorem Command.perform_launchAt {it : Interpreter} {levels : Nat} {w : World}
    (h : w.config.maxScriptDepth - w.depth = levels) (c : Command) :
    c.perform it (launchAt it levels) w = c.run it w := by
  apply perform_congr
  intro inv v hlaunches
  have hv := World.levelWith_of_launches (level_launchAt it levels) hlaunches
  unfold launch
  rw [hv.config_eq, hv.depth_eq, h]

theorem Interpreter.Within.run {it : Interpreter} {allowed : Command → World → Prop}
    (hit : it.Within allowed) (inv : Invocation) (w : World) :
    (it.run inv).Within allowed (Command.run it) w := by
  refine (hit inv (w.config.maxScriptDepth - w.depth) w).congr fun c v hasks ↦ ?_
  have hv := World.levelWith_of_asks (level_launchAt it _) hasks
  apply Command.perform_launchAt
  rw [hv.config_eq, hv.depth_eq]

/-- Whether every request of a run is allowed where the host makes it. -/
def Interpreter.RunsWithin (it : Interpreter) (allowed : Command → World → Prop) :
    List Command → World → Prop
  | [], _ => True
  | c :: rest, w => allowed c w ∧ it.RunsWithin allowed rest (c.run it w).state

/-! ## The invariant -/

/-- Whether a request leaves the object alone that stands for the module: it does not remove it, nor
queue its destruction, nor let go of all objects. -/
def Command.SparesModule (c : Command) (w : World) : Prop :=
  match c with
  | .objects (.remove id) => id ≠ w.schedule.object
  | .schedule (.queueDestroy target _) => target ≠ w.schedule.object
  | .destroyDelayed target _ => target ≠ w.schedule.object
  | .objects .clear => False
  | .shutdown => False
  | _ => True

/-- Whether an action is the destruction of an object. -/
def Action.Destroys (m : ObjectId) (a : Action) : Prop :=
  a.kind = .destroy ∧ a.owner = m

/-- The object `m` stands for the module, and nothing that waits destroys it. -/
structure World.Shelters (m : ObjectId) (w : World) : Prop where
  object_eq : w.schedule.object = m
  live : ∃ o, w.objects.get? m = some o ∧ o.type = .module_
  safe : ∀ a ∈ w.schedule.actions.values, ¬a.Destroys m
  functions_eq : w.functions = Builtin.registry w.config.logUnimplemented
  wellFormed : w.objects.WellFormed

namespace World.Shelters

variable {m : ObjectId} {w v : World} {it : Interpreter} {launch : Launcher} {c : Command}

theorem start (config : Config) (clock : Clock) (listening : Bool) (entropy : UInt64) :
    let w := (World.start config clock listening entropy : Outcome Note World Unit).state
    w.Shelters w.schedule.object := by
  intro w
  refine ⟨rfl, ?_, fun _ ha ↦ (List.not_mem_nil ha).elim, functions_start .., ?_⟩
  · let o := Object.fresh .module_ moduleTag
    rcases Container.WellFormed.empty.add_cases (ν := Note) o with
      ⟨-, hvalue, hstate⟩ | ⟨hspent, -, -⟩
    · refine ⟨{ o with id := Container.empty.nextId }, ?_, rfl⟩
      change (Outcome.state (Container.add (ν := Note) o .empty)).get?
        (Outcome.value (Container.add (ν := Note) o .empty)) = _
      rw [hvalue, hstate, Container.get?_place, Function.update_self]
    · exact absurd hspent (by decide)
  · exact (Reachable.start ..).wellFormed_objects

/-! ### Parts of the world -/

/-- What does not touch the objects and queues nothing. -/
theorem of_objects_eq (h : w.Shelters m) (hobjects : v.objects = w.objects)
    (hactions : v.schedule.actions.values ⊆ w.schedule.actions.values)
    (hobject : v.schedule.object = w.schedule.object) (hfunctions : v.functions = w.functions)
    (hconfig : v.config = w.config) : v.Shelters m where
  object_eq := hobject.trans h.object_eq
  live := hobjects ▸ h.live
  safe a ha := h.safe a (hactions ha)
  functions_eq := by rw [hfunctions, hconfig, h.functions_eq]
  wellFormed := hobjects ▸ h.wellFormed

theorem deeper (h : w.Shelters m) : w.deeper.Shelters m :=
  h.of_objects_eq rfl (List.Subset.refl _) rfl rfl rfl

theorem settled (h : w.Shelters m) : w.settled.Shelters m :=
  h.of_objects_eq rfl (List.Subset.refl _) rfl rfl rfl

theorem enqueued (h : w.Shelters m) {a : Action} (ha : ¬a.Destroys m) :
    { w with schedule := w.schedule.enqueued a }.Shelters m where
  object_eq := h.object_eq
  live := h.live
  safe b hb := by
    have hb : b ∈ (w.schedule.apply (.queue a)).actions.values := hb
    rcases Schedule.mem_values_apply hb with hold | ⟨a, heq, rfl⟩
    · exact h.safe b hold
    · cases heq
      exact ha
  functions_eq := h.functions_eq
  wellFormed := h.wellFormed

/-- A change to the objects that leaves the module among them. -/
theorem of_live (h : w.Shelters m) {objects : Container} (hwell : objects.WellFormed)
    (hlive : ∃ o, objects.get? m = some o ∧ o.type = .module_) :
    { w with objects }.Shelters m :=
  ⟨h.object_eq, hlive, h.safe, h.functions_eq, hwell⟩

/-- To change an object, be it the module, does not change its type. -/
theorem live_of_update (h : w.Shelters m) {objects : Container} {id : ObjectId}
    {f : Object → Object} (hf : ∀ o, (f o).type = o.type)
    (hview : objects.get? = Function.update w.objects.get? id ((w.objects.get? id).map f)) :
    ∃ o, objects.get? m = some o ∧ o.type = .module_ := by
  obtain ⟨o, ho, htype⟩ := h.live
  rw [hview, Function.update_apply]
  split
  · rename_i heq
    subst heq
    exact ⟨f o, by rw [ho]; rfl, (hf o).trans htype⟩
  · exact ⟨o, ho, htype⟩

theorem edit (h : w.Shelters m) (id : ObjectId) {f : Object → Object} (hf : Object.KeepsFile f) :
    { w with objects := w.objects.edit id f }.Shelters m :=
  h.of_live (h.wellFormed.edit id hf)
    (h.live_of_update (fun o ↦ (hf o).2.1) (w.objects.get?_edit id f))

theorem setTag (h : w.Shelters m) (id : ObjectId) (tag : String) :
    { w with objects := w.objects.setTag id tag }.Shelters m :=
  h.of_live (h.wellFormed.setTag id tag)
    (h.live_of_update (f := fun o ↦ { o with tag }) (fun _ ↦ rfl) (w.objects.get?_setTag id tag))

/-- A new object gets a number that no live object has. -/
theorem add (h : w.Shelters m) (o : Object) :
    { w with objects := ((Container.add o : Step Note Container ObjectId)
      w.objects).state }.Shelters m := by
  apply h.of_live
  · rw [Container.state_add]
    exact h.wellFormed.apply (.add o)
  · obtain ⟨old, hold, htype⟩ := h.live
    refine ⟨old, ?_, htype⟩
    rcases h.wellFormed.add_cases (ν := Note) o with ⟨-, -, hstate⟩ | ⟨-, -, hstate⟩
    · have hne : m ≠ w.objects.nextId := by
        rintro rfl
        rw [h.wellFormed.get?_nextId] at hold
        cases hold
      rw [hstate, Container.get?_place, Function.update_of_ne hne, hold]
    · rw [hstate, hold]

theorem remove (h : w.Shelters m) {id : ObjectId} (hid : id ≠ m) :
    { w with objects := ((Container.remove id : Step Note Container (Option Object))
      w.objects).state }.Shelters m := by
  apply h.of_live
  · exact h.wellFormed.remove id
  · rw [Container.get?_remove, Function.update_of_ne hid.symm]
    exact h.live

/-! ### Requests -/

theorem of_searches (h : w.Shelters m) {α : Type} {x : Step Note Browsing α}
    (hx : (x ⟨w.objects, w.searches⟩).state.objects = w.objects) :
    (browse x w).state.Shelters m := by
  rw [state_browse_of_objects hx]
  exact h.of_objects_eq rfl (List.Subset.refl _) rfl rfl rfl

theorem browse (h : w.Shelters m) {c : ObjectCommand} (hc : (Command.objects c).SparesModule w) :
    ((browse c.perform : Step Note World c.Reply) w).state.Shelters m := by
  cases c with
  | add o => exact h.add o
  | remove id => exact h.remove (h.object_eq ▸ hc)
  | setTag id tag => exact h.setTag id tag
  | clear => exact hc.elim
  | get | contains | all | findByTag | resolve | sort | nearest | readLocal => exact h
  | rename | setName | setPosition | setOrientation | setRelation | clearRelation | addItem
  | removeItem | hasItem | disarmTrap | setTrap | setLocal | deleteLocal =>
    exact h.edit _ fun _ ↦ ⟨rfl, rfl, rfl⟩
  | searchStart slot key => exact h.of_objects_eq rfl (List.Subset.refl _) rfl rfl rfl
  | searchCopy slot target => exact h.of_searches (objects_searchCopy ..)
  | searchNext | searchGet | searchStep | searchDrain => exact h.of_searches (objects_useSearch ..)

theorem onSchedule (h : w.Shelters m) {c : ScheduleCommand}
    (hc : (Command.schedule c).SparesModule w) :
    ((onSchedule c.perform : Step Note World c.Reply) w).state.Shelters m := by
  cases c with
  | queueScript => exact h.enqueued nofun
  | queueDestroy target timestamp => exact h.enqueued fun ha ↦ hc (ha.2.trans h.object_eq.symm)
  | takeDue now limit =>
    have hleft := w.schedule.entries_takeDue_sublist now limit
    exact h.of_objects_eq rfl (List.map_subset _ hleft.subset) rfl rfl rfl
  | clearActionsFor owner =>
    exact h.of_objects_eq rfl (List.map_subset _ List.filter_sublist.subset) rfl rfl rfl
  | clearActions | clear => exact h.of_objects_eq rfl (List.nil_subset _) rfl rfl rfl
  | stop | actions | nextFireTime | addEvent | takeEvents | object | diagnostic =>
    exact h.of_objects_eq rfl (List.Subset.refl _) rfl rfl rfl

theorem effect (h : w.Shelters m)
    (hlaunch : ∀ inv w, Shelters m w → Shelters m (launch inv w).state)
    (heffect : w.Effect launch v) : v.Shelters m := by
  cases heffect with
  | nothing => exact h
  | draw max => exact h.of_objects_eq rfl (List.Subset.refl _) rfl rfl rfl
  | defer => exact h.enqueued nofun
  | doom target delay other => exact h.enqueued fun ha ↦ other (ha.2.trans h.object_eq.symm)
  | remove target other => exact h.remove (h.object_eq ▸ other)
  | cancel owner =>
    exact h.of_objects_eq rfl (List.map_subset _ List.filter_sublist.subset) rfl rfl rfl
  | setLocal target name v => exact h.edit target fun _ ↦ ⟨rfl, rfl, rfl⟩
  | deleteLocal target name t =>
    refine h.edit target fun o ↦ ?_
    split
    · exact ⟨rfl, rfl, rfl⟩
    · exact ⟨rfl, rfl, rfl⟩
  | start inv => exact hlaunch inv w h

theorem runScript (h : w.Shelters m)
    (hlaunch : ∀ inv w, Shelters m w → Shelters m (launch inv w).state) (name : String)
    (owner triggerer : ObjectId) (environment : Environment) (state : Option ScriptState) :
    (it.runScript launch name owner triggerer environment state w).state.Shelters m := by
  rcases it.runScript_state launch name owner triggerer environment state w with hw | ⟨inv, hw⟩
  · rw [hw]
    exact h
  · rw [hw]
    exact hlaunch inv w h

/-- A destruction that is fired is one of the object that it was queued for, if of any. -/
theorem fire (h : w.Shelters m)
    (hlaunch : ∀ inv w, Shelters m w → Shelters m (launch inv w).state) {a : Action}
    (ha : ¬a.Destroys m) : (fire it launch a w).state.Shelters m := by
  cases hkind : a.kind with
  | destroy =>
    have hother : w.objects.resolveId a.owner .invalid ≠ m := by
      rw [h.wellFormed.resolveId_invalid]
      split
      · exact fun howner ↦ ha ⟨hkind, howner⟩
      · rintro rfl
        obtain ⟨o, ho, -⟩ := h.live
        rw [h.wellFormed.get?_invalid] at ho
        cases ho
    rcases fire_destroy_state it launch hkind w with hw | hw
    · rw [hw]
      exact h
    · rw [hw]
      exact h.remove hother
  | script name state =>
    rcases fire_script_state it launch hkind w with hw | ⟨inv, hw⟩
    · rw [hw]
      exact h
    · rw [hw]
      exact hlaunch inv w h

theorem fireAll (h : w.Shelters m)
    (hlaunch : ∀ inv w, Shelters m w → Shelters m (launch inv w).state) {actions : List Action}
    (hactions : ∀ a ∈ actions, ¬a.Destroys m) :
    (Step.forEach actions (World.fire it launch) w).state.Shelters m := by
  induction actions generalizing w with
  | nil => exact h
  | cons a rest ih =>
    obtain ⟨ha, hrest⟩ := List.forall_mem_cons.1 hactions
    exact ih (h.fire hlaunch ha) hrest

theorem taken (h : w.Shelters m) : w.taken.Shelters m := by
  unfold World.taken
  split
  · have hleft := w.settled.schedule.entries_takeDue_sublist w.clock.now w.config.maxActionsPerPump
    exact h.settled.of_objects_eq rfl (List.map_subset _ hleft.subset) rfl rfl rfl
  · exact h.settled

/-- What a pump is about to fire waited before, so none of it destroys the module. -/
theorem safe_pumped (h : w.Shelters m) : ∀ a ∈ w.pumped, ¬a.Destroys m :=
  fun a ha ↦ h.safe a (w.pumped_subset ha)

theorem perform (h : w.Shelters m)
    (hlaunch : ∀ inv w, Shelters m w → Shelters m (launch inv w).state) (hc : c.SparesModule w) :
    (c.perform it launch w).state.Shelters m := by
  cases c with
  | objects c => exact h.browse hc
  | schedule c => exact h.onSchedule hc
  | moveObject id area position => exact h.edit id fun _ ↦ ⟨rfl, rfl, rfl⟩
  | call function args site => exact h.effect hlaunch (effect_call function args site)
  | runScript | executeScript => exact h.runScript hlaunch ..
  | delayScript => exact h.enqueued nofun
  | destroyDelayed target delay => exact h.enqueued fun ha ↦ hc (ha.2.trans h.object_eq.symm)
  | pump =>
    have hpump : (Command.pump.perform it launch w).state = _ := (pump_apply w).1
    rw [hpump]
    exact h.taken.fireAll hlaunch h.safe_pumped
  | shutdown => exact hc.elim
  | random | pushEvent | setClock | advanceClock =>
    exact h.of_objects_eq rfl (List.Subset.refl _) rfl rfl rfl
  | loadScript | functions | config | diagnostic | frameFree => exact h

/-! ### Scripts and runs -/

/-- Scripts that spare the module leave it where it is, however deep they start one another. -/
theorem started (hit : it.Within Command.SparesModule) (inv : Invocation) (w : World)
    (h : w.Shelters m) : (ScriptHost.launch it inv w).state.Shelters m :=
  launch_keeps hit (fun _ _ hw ↦ hw.of_objects_eq rfl (List.Subset.refl _) rfl rfl rfl)
    (fun _ hlaunch _ _ hc hw ↦ hw.perform hlaunch hc) inv w h

theorem run (hit : it.Within Command.SparesModule) (c : Command) (w : World)
    (hc : c.SparesModule w) (h : w.Shelters m) : (c.run it w).state.Shelters m :=
  h.perform (started hit) hc

theorem afterRun (hit : it.Within Command.SparesModule) {cs : List Command}
    (hcs : it.RunsWithin Command.SparesModule cs w) (h : w.Shelters m) :
    (afterRun it cs w).Shelters m := by
  induction cs generalizing w with
  | nil => exact h
  | cons c rest ih => exact ih hcs.2 (run hit c w hcs.1 h)

theorem of_asks (hit : it.Within Command.SparesModule) (h : w.Shelters m) {inv : Invocation}
    (hasks : (it.run inv).Asks (Command.run it) w c v) : v.Shelters m ∧ c.SparesModule v :=
  hasks.keeps_within (hit.run inv w) (run hit) h

theorem of_launches (hit : it.Within Command.SparesModule) (h : w.Shelters m) {inv : Invocation}
    (hlaunches : c.Launches it (ScriptHost.launch it) w inv v) : v.Shelters m := by
  cases hlaunches with
  | run | execute | call => exact h
  | @fire before after a inv turn starts =>
    refine h.taken.fireAll (started hit) fun b hb ↦ h.safe_pumped b ?_
    rw [turn]
    exact List.mem_append_left _ hb

theorem of_enters (hit : it.Within Command.SparesModule) (h : w.Shelters m)
    {active : List Invocation} {inv : Invocation} (henters : it.Enters c w active inv v) :
    v.Shelters m := by
  induction henters with
  | outer launches free => exact (h.of_launches hit launches).deeper
  | inner _ asks launches free ih =>
    obtain ⟨hx, -⟩ := ih.of_asks hit asks
    exact (hx.of_launches hit launches).deeper

end World.Shelters

/-! ## What can be seen of the module -/

/-- The object `m` stands for the module as far as anybody can see: it is live, `GetModule` gives
it, and no destruction of it waits. -/
structure World.ModuleStands (m : ObjectId) (w : World) : Prop where
  live : ∃ o, w.objects.get? m = some o ∧ o.type = .module_
  found : ∀ function ∈ [FunctionName.id ⟨242⟩, .name "GetModule"], ∀ it launch site,
    (World.call it launch function [] site w).value = .ok (.object m)
  safe : ∀ a ∈ w.schedule.actions.values, ¬a.Destroys m

/-- `GetModule` gives the object that stands for the module, by its number and by its name. -/
theorem World.value_getModule {w : World}
    (h : w.functions = Builtin.registry w.config.logUnimplemented) (it : Interpreter)
    (launch : Launcher) (site : CallSite) :
    ∀ function ∈ [FunctionName.id ⟨242⟩, .name "GetModule"],
      (call it launch function [] site w).value = .ok (.object w.schedule.object) := by
  let f := Builtin.row .getModule
  have hf : f ∈ Builtin.table := Builtin.row_mem_table .getModule
  have haccepts : f.Accepts [] := ⟨by decide, by decide, by decide⟩
  have hget : w.functions.get? f.id = some f := by
    rw [h]
    exact Builtin.get?_registry.2 ⟨hf, rfl⟩
  have hfind : w.functions.find? f.name = some f.id := by
    rw [h]
    exact Builtin.find?_registry hf
  have hcall : (w.functions.call (Builtin.invoke it launch) f.id [] site w).value =
      .ok (.object w.schedule.object) :=
    Registry.value_call_of_accepts _ site w hget haccepts
  intro function hfunction
  simp only [List.mem_cons, List.not_mem_nil, or_false] at hfunction
  rcases hfunction with rfl | rfl
  · exact hcall
  · change (w.functions.callByName _ f.name [] site w).value = _
    rw [Registry.callByName, hfind]
    exact hcall

theorem World.Shelters.stands {m : ObjectId} {w : World} (h : w.Shelters m) : w.ModuleStands m where
  live := h.live
  found function hfunction it launch site := by
    rw [value_getModule h.functions_eq it launch site function hfunction, h.object_eq]
  safe := h.safe

/-- The module outlasts its scripts.  In every run from the start in which the host neither removes
the module, nor queues its destruction, nor shuts down, and whatever its scripts do by calls of
engine functions, the module stands: after each request of the host, and in the course of the next
one wherever a script is started, makes a request or gets the answer. -/
theorem module_outlasts_scripts (it : Interpreter) (hit : it.Within Command.SparesModule)
    (config : Config) (clock : Clock) (listening : Bool) (entropy : UInt64) (cs : List Command)
    (hcs : it.RunsWithin Command.SparesModule cs
      (World.start config clock listening entropy : Outcome Note World Unit).state) :
    let fresh := (World.start config clock listening entropy : Outcome Note World Unit).state
    let m := fresh.schedule.object
    let w := afterRun it cs fresh
    w.schedule.object = m ∧ w.ModuleStands m ∧
      ∀ c active inv u, it.Enters c w active inv u →
        u.ModuleStands m ∧
          ∀ c' v, (it.run inv).Asks (Command.run it) u c' v →
            v.ModuleStands m ∧ (c'.run it v).state.ModuleStands m := by
  intro fresh m w
  have hw : w.Shelters m :=
    (World.Shelters.start config clock listening entropy).afterRun hit hcs
  refine ⟨hw.object_eq, hw.stands, fun c active inv u henters ↦ ?_⟩
  have hu : u.Shelters m := hw.of_enters hit henters
  refine ⟨hu.stands, fun c' v hasks ↦ ?_⟩
  obtain ⟨hv, hspares⟩ := hu.of_asks hit hasks
  exact ⟨hv.stands, (World.Shelters.run hit c' v hspares hv).stands⟩

/-- Every script destroys its owner, in a while and at once. -/
def destroying : Interpreter where
  resolve _ := some []
  run inv :=
    let destroy (target : ObjectId) (delay : Single) : Command :=
      .call (.name "DestroyObject") [.object target, .float delay] ⟨inv.owner, inv.triggerer, none⟩
    .perform (destroy inv.owner (.ofInt 1)) fun _ ↦
      .perform (destroy .self .zero) fun _ ↦ .done

/-- The module, and another object, are made to destroy themselves. -/
theorem module_outlasts_scripts_destroying :
    let cs : List Command :=
      [.objects (.add (Object.fresh .creature "rat")), .destroyDelayed ⟨2⟩ 5,
        .runScript "a" ⟨1⟩ ⟨2⟩, .runScript "a" ⟨2⟩ ⟨1⟩, .delayScript "a" .initial ⟨1⟩ ⟨1⟩ 0, .pump,
        .advanceClock 1000, .pump]
    destroying.Within Command.SparesModule ∧
      destroying.RunsWithin Command.SparesModule cs World.fresh ∧
      (afterRun destroying cs World.fresh).ModuleStands ⟨1⟩ := by
  intro cs
  have hit : destroying.Within Command.SparesModule := fun _ _ _ ↦ ⟨trivial, trivial, trivial⟩
  have hcs : destroying.RunsWithin Command.SparesModule cs World.fresh := by
    refine ⟨trivial, ?_, trivial, trivial, trivial, trivial, trivial, trivial, trivial⟩
    change (⟨2⟩ : ObjectId) ≠ ⟨1⟩
    decide
  exact ⟨hit, hcs, (module_outlasts_scripts destroying hit .default ⟨0⟩ false 0 cs hcs).2.1⟩

end ScriptHost
