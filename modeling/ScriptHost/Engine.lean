import ScriptHost.Builtin.Native

/-!
# The engine

Here the parts come together: functions are called, scripts are started, and a pump hands on the
events and fires the actions whose time has come.

Scripts may start scripts.  How deep they may is a setting, and `launchAt` descends along what is
left of that depth, so every run ends.
-/

namespace ScriptHost

namespace World

/-- Calls an engine function. -/
def call (it : Interpreter) (launch : Launcher) (function : FunctionName) (args : List Value)
    (site : CallSite) : Step Note World (Except DispatchError Value) := fun w ↦
  match function with
  | .id id => w.functions.call (Builtin.invoke it launch) id args site w
  | .name name => w.functions.callByName (Builtin.invoke it launch) name args site w

/-! ## Pumping -/

/-- Hands on one event; a `quit` stops the module. -/
def dispatchEvent (e : Event) : Step Note World Unit := do
  Step.record .debug
    ("event " ++ e.kind.diagnostic ++ " at " ++ toString e.timestamp.toNat ++ "ms")
  if e.kind = .quit then onSchedule (Step.modify Schedule.stop)
  let w ← Step.get
  if w.listening then Step.note (.event e)

/-- Hands on all events that are waiting. -/
def dispatchEvents : Step Note World Unit := do
  let events ← onSchedule fun s ↦
    let (events, s') := s.takeEvents
    ⟨events, s', []⟩
  Step.forEach events dispatchEvent

/-- Fires one action.  It is passed over if its owner was an object that is gone by now. -/
def fire (it : Interpreter) (launch : Launcher) (a : Action) : Step Note World Unit := fun w ↦
  let owner := w.objects.resolveId a.owner .invalid
  if a.owner.isConcrete ∧ owner.isInvalid then
    Step.record .debug
      ("skipping action #" ++ toString a.seq ++ ": owner " ++ a.owner.text ++ " is gone") w
  else
    match a.kind with
    | .destroy =>
      (do
        Step.record .debug ("destroying " ++ owner.text)
        let _ ← removeObject owner) w
    | .script name state =>
      let triggerer := w.objects.resolveId a.triggerer .invalid
      (do
        Step.record .debug ("firing \"" ++ name ++ "\" on " ++ owner.text)
        match ← it.runScript launch name owner triggerer ∅ (some state) with
        | .ok () => pure ()
        | .error e =>
          Step.record .warn
            ("deferred \"" ++ name ++ "\" on " ++ owner.text ++ " failed: " ++ e.message)) w

/-- Takes the due actions off the queue. -/
def takeDue (now : UInt64) : Step Note World (List Action) := fun w ↦
  let (due, schedule) := w.schedule.takeDue now w.config.maxActionsPerPump
  ⟨due, { w with schedule }, []⟩

/-- Hands on the events and fires the actions that are due, as many as the settings allow; says how
many there were.  A module that does not run fires nothing. -/
def pump (it : Interpreter) (launch : Launcher) : Step Note World Nat := do
  let now ← Step.gets fun w ↦ w.clock.now
  dispatchEvents
  if ← Step.gets fun w ↦ w.schedule.running then
    let due ← takeDue now
    Step.forEach due (fire it launch)
    return due.length
  else return 0

end World

/-! ## Requests -/

/-- A step on the objects and the searches of a world. -/
def World.browse {ν α : Type} (x : Step ν Browsing α) : Step ν World α :=
  Step.zoom (fun w ↦ (⟨w.objects, w.searches⟩ : Browsing))
    (fun w b ↦ { w with objects := b.objects, searches := b.searches }) x

/-- Answers a request, given how scripts are loaded and started. -/
def Command.perform (it : Interpreter) (launch : Launcher) :
    (c : Command) → Step Note World c.Reply
  | objects c => World.browse c.perform
  | schedule c => World.onSchedule c.perform
  | moveObject id area position => World.moveObject id area position
  | call function args site => World.call it launch function args site
  | random max => World.drawRandom max
  | loadScript name => pure (it.load name)
  | runScript name owner triggerer => it.runScript launch name owner triggerer ∅ none
  | executeScript name owner triggerer environment =>
    it.runScript launch name owner triggerer environment none
  | delayScript script state owner triggerer delay =>
    World.delayScript script state owner triggerer delay
  | destroyDelayed target delay => World.destroyDelayed target delay
  | pushEvent kind => World.pushEvent kind
  | pump => World.pump it launch
  | setClock now => World.setClock now
  | advanceClock delta => World.advanceClock delta
  | shutdown => World.shutdown
  | functions => Step.gets fun w ↦ w.functions.toList.map (·.id)
  | config => Step.gets World.config
  | diagnostic => Step.gets World.diagnostic
  | frameFree => pure true

/-! ## Starting scripts -/

/-- Starts a loaded script where so many levels of nesting are left. -/
def launchAt (it : Interpreter) : Nat → Launcher
  | 0, inv => fun w ↦
    ⟨.error (.depthExceeded inv.script.name w.config.maxScriptDepth), w, []⟩
  | levels + 1, inv => do
    Step.modify fun w ↦ { w with depth := w.depth + 1 }
    let result ← (it.run inv).exec (Command.perform it (launchAt it levels))
    Step.modify fun w ↦ { w with depth := w.depth - 1 }
    return result

/-- Starts a loaded script, unless that would nest scripts deeper than the settings allow. -/
def launch (it : Interpreter) : Launcher := fun inv w ↦
  launchAt it (w.config.maxScriptDepth - w.depth) inv w

/-- Answers a request of the host. -/
def Command.run (it : Interpreter) (c : Command) : Step Note World c.Reply :=
  c.perform it (launch it)

end ScriptHost
