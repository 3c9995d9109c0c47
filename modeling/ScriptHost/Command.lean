import ScriptHost.Command.Objects
import ScriptHost.Command.Schedule
import ScriptHost.World

/-!
# Requests to a world

What a host, or a script while it runs, can ask of a world, with the type of each answer.  How the
requests are answered is said in `ScriptHost.Engine`.
-/

namespace ScriptHost

/-- How a function is named in a call. -/
inductive FunctionName where
  | id (id : FunctionId)
  | name (name : String)

/-- A request to a world. -/
inductive Command where
  | objects (c : ObjectCommand)
  | schedule (c : ScheduleCommand)
  | moveObject (id area : ObjectId) (position : Vector3)
  | call (function : FunctionName) (args : List Value) (site : CallSite)
  | random (max : Int32)
  | loadScript (name : String)
  | runScript (name : String) (owner triggerer : ObjectId)
  | executeScript (name : String) (owner triggerer : ObjectId) (environment : Environment)
  | delayScript (script : String) (state : ScriptState) (owner triggerer : ObjectId)
      (delay : UInt64)
  | destroyDelayed (target : ObjectId) (delay : UInt64)
  | pushEvent (kind : EventKind)
  | pump
  | setClock (now : UInt64)
  | advanceClock (delta : UInt64)
  | shutdown
  | functions
  | config
  | diagnostic
  /-- Whether nobody holds the frame. -/
  | frameFree

/-- The answer to a request. -/
@[reducible]
def Command.Reply : Command → Type
  | objects c => c.Reply
  | schedule c => c.Reply
  | moveObject .. => Bool
  | call .. => Except DispatchError Value
  | random _ => Int32
  | loadScript _ => Except ScriptError Script
  | runScript .. => Except ScriptError Unit
  | executeScript .. => Except ScriptError Unit
  | delayScript .. => Nat
  | destroyDelayed .. => Nat
  | pushEvent _ => Unit
  | pump => Nat
  | setClock _ => Unit
  | advanceClock _ => Unit
  | shutdown => Unit
  | functions => List FunctionId
  | config => Config
  | diagnostic => String
  | frameFree => Bool

/-- What is noted beside the records of the engine. -/
inductive Note where
  /-- A call that a script made gave a value. -/
  | returned (v : Value)
  /-- A call that a script made failed, and the script went on. -/
  | failed (e : DispatchError)
  | text (s : String)
  /-- What a script was started with, and how deep. -/
  | invocation (script : Script) (owner triggerer : ObjectId) (depth : Nat)
      (state : Option ScriptState)
  /-- The answer to a request that a script made. -/
  | performed (c : Command) (reply : c.Reply)
  /-- An event was handed on. -/
  | event (e : Event)

end ScriptHost
