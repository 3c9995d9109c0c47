import ScriptHost.Builtin.Number
import ScriptHost.Program

/-!
# What the engine functions do

Each function reads its parameters, acts on the world and fills the slot for its result.  An object
parameter may be `self`, which means the caller, and may name an object that is not there; then the
function acts as on no object.
-/

namespace ScriptHost

namespace Builtin

/-- A native that fails or leaves a context. -/
abbrev Native := Step Note World (Except NativeError CallContext)

/-- Goes on with what was read from the parameters, or fails. -/
def withArgs {α : Type} (read : Except NativeError α) (next : α → Native) : Native :=
  match read with
  | .ok a => next a
  | .error e => pure (.error e)

/-- Ends with a value in the slot for the result. -/
def give (ctx : CallContext) (v : Value) : Native :=
  pure (.ok (ctx.setReturn v))

/-- An object parameter: the number of the live object that it means, or `invalid`. -/
def objectArg (w : World) (ctx : CallContext) (index : Nat) : Except NativeError ObjectId :=
  (ctx.arg Value.asObject index).map fun id ↦ w.objects.resolveId id ctx.caller

/-- A function of the world and the parameters that changes nothing. -/
def query (ctx : CallContext) (f : World → Except NativeError Value) : Native := fun w ↦
  withArgs (f w) (give ctx) w

/-- A function of the parameters that writes a line to the log. -/
def print (ctx : CallContext) (text : Except NativeError String) : Native :=
  withArgs text fun text ↦ do
    Step.record .info text
    return .ok ctx

/-- The distance between two live, placed objects in one area. -/
def distanceBetween (c : Container) (a b : ObjectId) : Option Single := do
  let a ← c.get? a
  let b ← c.get? b
  if a.area = b.area then return (← a.position).distance (← b.position) else none

/-- The number of the `nth` nearest object to a target, counting from one. -/
def nearestId (c : Container) (target : ObjectId) (mask : TypeMask) (nth : Int32)
    (tag : Option String) : ObjectId :=
  if nth.toInt < 1 then .invalid
  else
    ((c.get? target).bind fun target ↦
      nearest? c target mask (nth.toInt - 1).toNat tag).elim .invalid (·.id)

/-- A local of an object that may be missing; the zero value of its type in every other case. -/
def localOf (t : LocalType) (o : Option Object) (name : String) : Value :=
  match t with
  | .int => .int (o.elim 0 (·.localInt name))
  | .float => .float (o.elim .zero (·.localFloat name))
  | .string => .string (o.elim "" (·.localString name))
  | .object => .object (o.elim .invalid (·.localObject name))

/-- Queues the calling script, to be resumed from a captured state. -/
def defer (ctx : CallContext) (script : String) (state : ScriptState) (owner : ObjectId)
    (delay : UInt64) : Native := do
  let _ ← World.delayScript script state owner ctx.triggerer delay
  return .ok ctx

/-! ## Functions that only look -/

/-- The functions that change nothing. -/
def look (f : World → CallContext → Except NativeError Value) (ctx : CallContext) : Native :=
  query ctx fun w ↦ f w ctx

def areaOf (w : World) (ctx : CallContext) : Except NativeError Value := do
  let target ← objectArg w ctx 0
  return .object
    ((w.objects.get? target).elim .invalid fun o ↦ w.objects.resolveId o.area ctx.caller)

def positionOf (w : World) (ctx : CallContext) : Except NativeError Value := do
  let target ← objectArg w ctx 0
  return .vector (((w.objects.get? target).bind (·.position)).getD .zero)

def distanceTo (w : World) (ctx : CallContext) : Except NativeError Value := do
  let target ← objectArg w ctx 0
  return .float ((distanceBetween w.objects ctx.caller target).getD .negOne)

def distanceOf (w : World) (ctx : CallContext) : Except NativeError Value := do
  let a ← objectArg w ctx 0
  let b ← objectArg w ctx 1
  return .float ((distanceBetween w.objects a b).getD .zero)

def isValid (w : World) (ctx : CallContext) : Except NativeError Value := do
  let target ← objectArg w ctx 0
  return .ofBool (!target.isInvalid)

def typeOf (w : World) (ctx : CallContext) : Except NativeError Value := do
  let target ← objectArg w ctx 0
  return .int ((w.objects.get? target).elim ObjectType.missingNumber fun o ↦ o.type.bit.toInt32)

def tagOf (w : World) (ctx : CallContext) : Except NativeError Value := do
  let target ← objectArg w ctx 0
  return .string ((w.objects.get? target).elim "" (·.tag))

def byTag (w : World) (ctx : CallContext) : Except NativeError Value := do
  let tag ← ctx.arg Value.asString 0
  let nth ← ctx.arg Value.asInt 1
  if nth.toInt < 0 then return .object .invalid
  else return .object ((w.objects.findByTag? tag nth.toInt.toNat).elim .invalid (·.id))

def nearestByType (w : World) (ctx : CallContext) : Except NativeError Value := do
  let mask ← ctx.arg Value.asInt 0
  let target ← objectArg w ctx 1
  let nth ← ctx.arg Value.asInt 2
  return .object (nearestId w.objects target (.ofScript mask) nth none)

def nearestByTag (w : World) (ctx : CallContext) : Except NativeError Value := do
  let tag ← ctx.arg Value.asString 0
  let target ← objectArg w ctx 1
  let nth ← ctx.arg Value.asInt 2
  return .object (nearestId w.objects target .all nth (some tag))

def localValue (t : LocalType) (w : World) (ctx : CallContext) : Except NativeError Value := do
  let target ← objectArg w ctx 0
  let name ← ctx.arg Value.asString 1
  return localOf t (w.objects.get? target) name

def floatText (ctx : CallContext) : Except NativeError String := do
  let x ← ctx.arg Value.asFloat 0
  let width ← ctx.arg Value.asInt 1
  let places ← ctx.arg Value.asInt 2
  return formatFloat x width places

/-! ## Functions that change something -/

def runAssignCommand (ctx : CallContext) : Native :=
  withArgs ctx.requireScriptName fun script w ↦
    withArgs (objectArg w ctx 0) (fun owner ↦
      if owner.isInvalid then pure (.ok ctx)
      else withArgs (ctx.arg Value.asState 1) fun state ↦ defer ctx script state owner 0) w

def runDelayCommand (ctx : CallContext) : Native :=
  withArgs ctx.requireScriptName fun script ↦
    withArgs (ctx.arg Value.asFloat 0) fun delay ↦
      withArgs (ctx.arg Value.asState 1) fun state ↦
        defer ctx script state ctx.caller delay.toMillis

def runActionDoCommand (ctx : CallContext) : Native :=
  withArgs ctx.requireScriptName fun script ↦
    withArgs (ctx.arg Value.asState 0) fun state ↦ defer ctx script state ctx.caller 0

/-- Runs a script at once on an object, with the environment of the calling script.  If that fails,
the caller goes on. -/
def runExecuteScript (it : Interpreter) (launch : Launcher) (ctx : CallContext) : Native :=
  withArgs (ctx.arg Value.asString 0) fun name w ↦
    withArgs (objectArg w ctx 1) (fun target ↦ do
      let environment := (ctx.site.script.map (·.environment)).getD ∅
      match ← it.runScript launch name target ctx.triggerer environment none with
      | .ok () => return .ok ctx
      | .error e =>
        Step.record .warn
          ("Failed ExecuteScript(\"" ++ name ++ "\", " ++ target.text ++ "): " ++ e.message)
        return .ok ctx) w

def runClearAllActions (ctx : CallContext) : Native := do
  let _ ← World.onSchedule (Schedule.clearActionsFor ctx.caller)
  return .ok ctx

/-- Destroys an object, at once if the delay comes to no time at all.  The module stays. -/
def runDestroyObject (ctx : CallContext) : Native := fun w ↦
  withArgs (objectArg w ctx 0) (fun target ↦
    if target.isInvalid ∨ target = w.schedule.object then pure (.ok ctx)
    else withArgs (ctx.arg Value.asFloat 1) fun delay ↦
      if delay.toMillis = 0 then do
        let _ ← World.removeObject target
        return .ok ctx
      else do
        let _ ← World.destroyDelayed target delay.toMillis
        return .ok ctx) w

def runSetLocal (ctx : CallContext) : Native := fun w ↦
  withArgs (objectArg w ctx 0) (fun target ↦
    withArgs (ctx.arg Value.asString 1) fun name ↦
      withArgs (ctx.param 2) fun v ↦ do
        World.editObject target (Object.setLocal name v)
        return .ok ctx) w

/-- The type of the locals that a function deletes, by its name. -/
def deletedType : String → LocalType
  | "DeleteLocalInt" => .int
  | "DeleteLocalFloat" => .float
  | "DeleteLocalString" => .string
  | _ => .object

/-- Deletes a local, if it is of the type that the function is named for. -/
def runDeleteLocal (ctx : CallContext) : Native := fun w ↦
  withArgs (objectArg w ctx 0) (fun target ↦
    withArgs (ctx.arg Value.asString 1) fun name ↦ do
      let expected := (deletedType ctx.name).valueType
      World.editObject target fun o ↦
        if (o.getLocal? name).any (·.type == expected) then o.deleteLocal name else o
      return .ok ctx) w

def runRandom (ctx : CallContext) : Native :=
  withArgs (ctx.arg Value.asInt 0) fun max ↦ do
    let n ← World.drawRandom max
    give ctx (.int n)

/-- Runs an engine function, given how scripts are loaded and started. -/
def invoke (it : Interpreter) (launch : Launcher) : Registry.Invoke Builtin Note World
  | random, ctx => runRandom ctx
  | printString, ctx => print ctx (ctx.arg Value.asString 0)
  | printFloat, ctx => print ctx (floatText ctx)
  | floatToString, ctx => look (fun _ ctx ↦ (floatText ctx).map .string) ctx
  | printInteger, ctx => print ctx ((ctx.arg Value.asInt 0).map fun n ↦ toString n.toInt)
  | printObject, ctx =>
    print ctx ((ctx.arg Value.asObject 0).map fun id ↦ (id.orCaller ctx.caller).text)
  | assignCommand, ctx => runAssignCommand ctx
  | delayCommand, ctx => runDelayCommand ctx
  | executeScript, ctx => runExecuteScript it launch ctx
  | clearAllActions, ctx => runClearAllActions ctx
  | getArea, ctx => look areaOf ctx
  | getPosition, ctx => look positionOf ctx
  | getDistanceToObject, ctx => look distanceTo ctx
  | getIsObjectValid, ctx => look isValid ctx
  | getLocal t, ctx => look (localValue t) ctx
  | setLocal _, ctx => runSetLocal ctx
  | getStringLength, ctx =>
    look (fun _ ctx ↦ (ctx.arg Value.asString 0).map fun s ↦ .int (stringLength s)) ctx
  | intToString, ctx =>
    look (fun _ ctx ↦ (ctx.arg Value.asInt 0).map fun n ↦ .string (toString n.toInt)) ctx
  | getObjectType, ctx => look typeOf ctx
  | getDistanceBetween, ctx => look distanceOf ctx
  | getTag, ctx => look tagOf ctx
  | getObjectByTag, ctx => look byTag ctx
  | getNearestObject, ctx => look nearestByType ctx
  | getNearestObjectByTag, ctx => look nearestByTag ctx
  | intToFloat, ctx =>
    look (fun _ ctx ↦ (ctx.arg Value.asInt 0).map fun n ↦ .float (.ofInt n.toInt)) ctx
  | floatToInt, ctx =>
    look (fun _ ctx ↦ (ctx.arg Value.asFloat 0).map fun x ↦ .int x.toInt32) ctx
  | stringToInt, ctx =>
    look (fun _ ctx ↦ (ctx.arg Value.asString 0).map fun s ↦ .int (leadingInt s)) ctx
  | destroyObject, ctx => runDestroyObject ctx
  | getModule, ctx => look (fun w _ ↦ .ok (.object w.schedule.object)) ctx
  | deleteLocal _, ctx => runDeleteLocal ctx
  | actionDoCommand, ctx => runActionDoCommand ctx

end Builtin

end ScriptHost
