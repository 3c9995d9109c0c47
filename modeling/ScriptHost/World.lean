import ScriptHost.Builtin
import ScriptHost.Clock
import ScriptHost.Config
import ScriptHost.Object.Distance
import ScriptHost.Random
import ScriptHost.Schedule

/-!
# The world

A `World` is everything that lasts between two steps of the engine: settings, functions, objects,
the schedule, the time, the random numbers and how deep scripts are nested at the moment.  The
changes here start no script.
-/

namespace ScriptHost

/-- The state of the engine. -/
@[ext]
structure World where
  config : Config
  functions : Registry Builtin
  objects : Container
  schedule : Schedule
  clock : Clock
  /-- Whether anybody is told of events. -/
  listening : Bool
  random : Generator
  /-- How many scripts are running, each started by the one before it. -/
  depth : Nat
  /-- Searches that are kept under names between steps. -/
  searches : SortedMap String Search

namespace World

variable {ν α : Type}

/-- The tag of the object that stands for the module. -/
def moduleTag : String := "module"

/-- A fresh world: its only object is the module.  `entropy` seeds the random numbers if the
settings give no seed. -/
def start (config : Config) (clock : Clock) (listening : Bool) (entropy : UInt64) :
    Outcome ν World Unit :=
  let added := (Container.add (Object.fresh .module_ moduleTag) : Step ν Container ObjectId) .empty
  let functions := Builtin.registry config.logUnimplemented
  { value := ()
    state := {
      config
      functions
      objects := added.state
      schedule := .start added.value
      clock
      listening
      random := .ofSeed (config.rngSeed.getD entropy)
      depth := 0
      searches := ∅ }
    log := added.log ++
      [.record .debug
        ("runtime ready with " ++ toString functions.size ++ " engine functions")] }

/-! ## Parts -/

/-- A step on the objects. -/
def onObjects (x : Step ν Container α) : Step ν World α :=
  Step.zoom World.objects (fun w objects ↦ { w with objects }) x

/-- A step on the schedule. -/
def onSchedule (x : Step ν Schedule α) : Step ν World α :=
  Step.zoom World.schedule (fun w schedule ↦ { w with schedule }) x

/-! ## Objects -/

def addObject (o : Object) : Step ν World ObjectId :=
  onObjects (Container.add o)

def removeObject (id : ObjectId) : Step ν World (Option Object) :=
  onObjects (Container.remove id)

/-- Changes an object in place. -/
def editObject (id : ObjectId) (f : Object → Object) : Step ν World Unit :=
  onObjects (Step.modify (·.edit id f))

/-- Puts an object somewhere else; says whether it is there. -/
def moveObject (id area : ObjectId) (position : Vector3) : Step ν World Bool := do
  let w ← Step.get
  editObject id fun o ↦ (o.setRelation .area area).setPosition position
  return w.objects.contains id

/-! ## Time -/

/-- Queues a script to be resumed after a delay. -/
def delayScript (script : String) (state : ScriptState) (owner triggerer : ObjectId)
    (delay : UInt64) : Step ν World Nat := do
  let w ← Step.get
  onSchedule (Schedule.queue (.script script state owner triggerer (w.clock.after delay)))

/-- Queues the destruction of an object after a delay. -/
def destroyDelayed (target : ObjectId) (delay : UInt64) : Step ν World Nat := do
  let w ← Step.get
  onSchedule (Schedule.queue (.destroy target (w.clock.after delay)))

def addEvent (e : Event) : Step ν World Unit :=
  onSchedule (Step.modify (·.addEvent e))

/-- Adds an event that happens now. -/
def pushEvent (kind : EventKind) : Step ν World Unit := do
  let w ← Step.get
  addEvent ⟨w.clock.now, kind⟩

def setClock (now : UInt64) : Step ν World Unit :=
  Step.modify fun w ↦ { w with clock := w.clock.set now }

def advanceClock (delta : UInt64) : Step ν World Unit :=
  Step.modify fun w ↦ { w with clock := w.clock.advance delta }

/-! ## The rest -/

/-- Draws a random number from zero up to below `max`. -/
def drawRandom (max : Int32) : Step ν World Int32 := fun w ↦
  let (n, random) := w.random.below max
  ⟨n, { w with random }, []⟩

/-- Stops the module and lets go of everything. -/
def shutdown : Step ν World Unit :=
  Step.modify fun w ↦
    { w with
      schedule := w.schedule.stop.clear
      objects := w.objects.clear
      functions := w.functions.clear }

def diagnostic (w : World) : String :=
  Text.shownRecord "Runtime"
    [("config", w.config.diagnostic), ("functions", toString w.functions.size),
      ("objects", toString w.objects.size), ("module", w.schedule.diagnostic),
      ("depth", toString w.depth)]

end World

end ScriptHost
