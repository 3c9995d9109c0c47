import ScriptHost.Function.Registry

/-!
# Routines

A routine is a native that is given as a list of requests to its own call: it reads parameters,
fills the slot for the result, looks at the call site or fails.  The answers are collected in
order.
-/

namespace ScriptHost

/-- The types that a parameter can be read as. -/
inductive ArgType where
  | int
  | bool
  | float
  | string
  | object
  | vector
  | action
  deriving DecidableEq, Inhabited

/-- What a parameter is when it is read as a type. -/
@[reducible]
def ArgType.Content : ArgType → Type
  | int => Int32
  | bool => Bool
  | float => Single
  | string => String
  | object => ObjectId
  | vector => Vector3
  | action => ScriptState

/-- Reads a value as a type. -/
def ArgType.read : (t : ArgType) → Value → Except TypeMismatch t.Content
  | int => Value.asInt
  | bool => Value.asBool
  | float => Value.asFloat
  | string => Value.asString
  | object => Value.asObject
  | vector => Value.asVector
  | action => Value.asState

/-- A request to a call. -/
inductive ContextCommand where
  | describe
  | diagnostic
  /-- The function that is called, and how many arguments were given. -/
  | function
  | params
  | param (index : Nat)
  | arg (index : Nat) (t : ArgType)
  | setParam (index : Nat) (v : Value)
  | isSpecified (index : Nat)
  | setSpecified (count : Nat)
  | returnValue
  | setReturn (v : Value)
  /-- Gives a parameter back as the result. -/
  | returnParam (index : Nat)
  | site
  | setCaller (id : ObjectId)
  | setTriggerer (id : ObjectId)
  | clearScript
  | requireScript
  | fail (e : NativeError)

namespace ContextCommand

/-- The answer to a request. -/
@[reducible]
def Reply : ContextCommand → Type
  | describe => String
  | diagnostic => String
  | function => CallContext
  | params => List Value
  | param _ => Value
  | arg _ t => t.Content
  | setParam .. => Bool
  | isSpecified _ => Bool
  | setSpecified _ => Except DispatchError Unit × Nat
  | returnValue => Value
  | setReturn _ => Unit
  | returnParam _ => Unit
  | site => CallSite
  | setCaller _ => Unit
  | setTriggerer _ => Unit
  | clearScript => Unit
  | requireScript => String
  | fail _ => Unit

/-- Answers a request, and gives the call as it is then. -/
def perform (ctx : CallContext) :
    (c : ContextCommand) → Except NativeError (c.Reply × CallContext)
  | describe => .ok (ctx.describe, ctx)
  | diagnostic => .ok (ctx.diagnostic, ctx)
  | function => .ok (ctx, ctx)
  | params => .ok (ctx.params, ctx)
  | param index => (ctx.param index).map (·, ctx)
  | arg index t => (ctx.arg t.read index).map (·, ctx)
  | setParam index v => .ok (index < ctx.params.length, ctx.setParam index v)
  | isSpecified index => .ok (ctx.isSpecified index, ctx)
  | setSpecified count =>
    match ctx.setSpecified count with
    | .ok ctx' => .ok ((.ok (), ctx'.specified), ctx')
    | .error e => .ok ((.error e, ctx.specified), ctx)
  | returnValue => .ok (ctx.returnValue, ctx)
  | setReturn v => .ok ((), ctx.setReturn v)
  | returnParam index => (ctx.param index).map fun v ↦ ((), ctx.setReturn v)
  | site => .ok (ctx.site, ctx)
  | setCaller id => .ok ((), ctx.setCaller id)
  | setTriggerer id => .ok ((), ctx.setTriggerer id)
  | clearScript => .ok ((), ctx.clearScript)
  | requireScript => ctx.requireScriptName.map (·, ctx)
  | fail e => .error e

end ContextCommand

/-- A step of a routine.  If it is only an attempt, the routine goes on when it fails. -/
structure RoutineStep where
  command : ContextCommand
  attempt : Bool

/-- The answer to a step of a routine, or why there is none. -/
structure RoutineOutput where
  command : ContextCommand
  reply : Except NativeError command.Reply

/-- A native as a list of steps. -/
abbrev Routine := List RoutineStep

namespace Routine

variable {ν : Type}

/-- Runs the steps in order on a call, and collects their answers. -/
def run (routine : Routine) (ctx : CallContext) :
    Step ν (List RoutineOutput) (Except NativeError CallContext) :=
  match routine with
  | [] => pure (.ok ctx)
  | step :: rest =>
    match step.command.perform ctx with
    | .ok (reply, ctx') => do
      Step.modify (· ++ [⟨step.command, .ok reply⟩])
      run rest ctx'
    | .error e =>
      if step.attempt then do
        Step.modify (· ++ [⟨step.command, .error e⟩])
        run rest ctx
      else pure (.error e)

end Routine

end ScriptHost
