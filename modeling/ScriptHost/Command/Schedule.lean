import ScriptHost.Schedule

/-!
# Requests about the schedule

What can be asked of the schedule of a module, with the type of each answer.
-/

namespace ScriptHost

/-- A request about the schedule. -/
inductive ScheduleCommand where
  | queueScript (script : String) (state : ScriptState) (owner triggerer : ObjectId)
      (timestamp : UInt64)
  | queueDestroy (target : ObjectId) (timestamp : UInt64)
  | takeDue (now : UInt64) (limit : Option Nat)
  | clearActionsFor (owner : ObjectId)
  | clearActions
  | stop
  | clear
  | actions
  | nextFireTime
  | addEvent (e : Event)
  | takeEvents
  | object
  | diagnostic

namespace ScheduleCommand

/-- The answer to a request. -/
@[reducible]
def Reply : ScheduleCommand → Type
  | queueScript .. => Nat
  | queueDestroy .. => Nat
  | takeDue .. => List Action
  | clearActionsFor _ => Nat
  | clearActions => Unit
  | stop => Unit
  | clear => Unit
  | actions => List Action
  | nextFireTime => Option UInt64
  | addEvent _ => Unit
  | takeEvents => List Event
  | object => ObjectId
  | diagnostic => String

/-- Answers a request. -/
def perform {ν : Type} : (c : ScheduleCommand) → Step ν Schedule c.Reply
  | queueScript script state owner triggerer timestamp =>
    Schedule.queue (.script script state owner triggerer timestamp)
  | queueDestroy target timestamp => Schedule.queue (.destroy target timestamp)
  | takeDue now limit => fun s ↦
    let (due, s') := s.takeDue now limit
    ⟨due, s', []⟩
  | clearActionsFor owner => Schedule.clearActionsFor owner
  | clearActions => Step.modify Schedule.clearActions
  | stop => Step.modify Schedule.stop
  | clear => Step.modify Schedule.clear
  | actions => Step.gets fun s ↦ s.actions.values
  | nextFireTime => Step.gets Schedule.nextFireTime?
  | addEvent e => Step.modify (·.addEvent e)
  | takeEvents => fun s ↦
    let (events, s') := s.takeEvents
    ⟨events, s', []⟩
  | object => Step.gets Schedule.object
  | diagnostic => Step.gets Schedule.diagnostic

end ScheduleCommand

end ScriptHost
